import Mathlib.Data.List.AList
import Mathlib.Data.List.Sort

set_option autoImplicit false

/-! # Collections of documents

A document collection with a primary key: a finite map from keys to documents (Mathlib's
`AList`, whose entries have distinct keys by construction). A query returns its matches in
key order (`query_sorted`), so a query on a part of a collection is that part of the answer
(`Restricts.query`). An update is conditional: it looks at one document, tests it, and either
rewrites it or leaves the collection alone.
-/

/-- A collection of documents `δ` under primary keys `κ`. -/
abbrev Collection (κ δ : Type*) := AList (fun _ : κ => δ)

namespace Collection

variable {κ δ : Type*} [LinearOrder κ]

/-- The documents with their keys, in storage order. -/
def docs (c : Collection κ δ) : List (κ × δ) := c.entries.map (fun e => (e.1, e.2))

/-- Conditional update of the document stored under `k`. -/
def updateIf (c : Collection κ δ) (k : κ) (p : δ → Bool) (f : δ → δ) : Collection κ δ :=
  match c.lookup k with
  | some d => if p d then c.insert k (f d) else c
  | none => c

/-- The documents matching `p`, sorted by key. -/
def query (c : Collection κ δ) (p : κ × δ → Bool) : List (κ × δ) :=
  (c.docs.filter p).insertionSort (fun a b => a.1 ≤ b.1)

/-- Some document matching `p`; there is at most one when `p` tests a unique field. -/
def findOne (c : Collection κ δ) (p : δ → Bool) : Option (κ × δ) :=
  c.docs.find? (fun e => p e.2)

theorem mem_docs {c : Collection κ δ} {k : κ} {d : δ} :
    (k, d) ∈ c.docs ↔ c.lookup k = some d := by
  rw [docs, List.mem_map]
  constructor
  · rintro ⟨e, he, heq⟩
    obtain ⟨rfl, rfl⟩ := Prod.ext_iff.mp heq
    exact AList.mem_lookup_iff.mpr he
  · intro h
    exact ⟨⟨k, d⟩, AList.mem_lookup_iff.mp h, rfl⟩

/-! ## Conditional updates -/

theorem lookup_updateIf_of_ne {c : Collection κ δ} {k j : κ} (h : j ≠ k) (p : δ → Bool)
    (f : δ → δ) : (c.updateIf k p f).lookup j = c.lookup j := by
  rw [updateIf]
  split
  · split
    · exact AList.lookup_insert_ne h
    · rfl
  · rfl

theorem lookup_updateIf_self (c : Collection κ δ) (k : κ) (p : δ → Bool) (f : δ → δ) :
    (c.updateIf k p f).lookup k = (c.lookup k).map (fun d => if p d then f d else d) := by
  rw [updateIf]
  cases hd : c.lookup k with
  | none => simp [hd]
  | some d =>
      by_cases hp : p d
      · simp [hp, AList.lookup_insert]
      · simp [hp, hd]

theorem updateIf_singleton (k : κ) (p : δ → Bool) (f : δ → δ) (d : δ) :
    updateIf (AList.singleton k d) k p f = AList.singleton k (if p d then f d else d) := by
  have hlookup : (AList.singleton k d : Collection κ δ).lookup k = some d :=
    List.dlookup_cons_eq _ _ _
  unfold updateIf
  rw [hlookup]
  dsimp only
  split_ifs
  · exact AList.insert_singleton_eq
  · rfl

/-- What holds of a stored document, and of what an update that matches makes of it, holds of the
document that is stored there after the update. -/
theorem exists_lookup_updateIf {c : Collection κ δ} {k j : κ} {p : δ → Bool} {f : δ → δ} {d : δ}
    {P : δ → Prop} (hd : c.lookup j = some d) (hkept : P d)
    (hf : j = k → p d = true → P (f d)) :
    ∃ d', (c.updateIf k p f).lookup j = some d' ∧ P d' := by
  by_cases hj : j = k
  · subst hj
    rw [lookup_updateIf_self, hd]
    by_cases hp : p d = true
    · exact ⟨f d, by rw [Option.map_some, if_pos hp], hf rfl hp⟩
    · exact ⟨d, by rw [Option.map_some, if_neg hp], hkept⟩
  · exact ⟨d, by rw [lookup_updateIf_of_ne hj, hd], hkept⟩

/-- A document that is stored after an update was stored before, or is what an update that
matches has made of one. -/
theorem lookup_updateIf_cases {c : Collection κ δ} {k j : κ} {p : δ → Bool} {f : δ → δ} {d' : δ}
    (h : (c.updateIf k p f).lookup j = some d') :
    c.lookup j = some d' ∨ (j = k ∧ ∃ d, c.lookup k = some d ∧ p d = true ∧ d' = f d) := by
  by_cases hj : j = k
  · subst hj
    rw [lookup_updateIf_self] at h
    obtain ⟨d, hd, rfl⟩ := Option.map_eq_some_iff.mp h
    by_cases hp : p d = true
    · exact Or.inr ⟨rfl, d, hd, hp, if_pos hp⟩
    · rw [if_neg hp]
      exact Or.inl hd
  · rw [lookup_updateIf_of_ne hj] at h
    exact Or.inl h

/-! ## Queries -/

theorem mem_query {c : Collection κ δ} {p : κ × δ → Bool} {k : κ} {d : δ} :
    (k, d) ∈ c.query p ↔ c.lookup k = some d ∧ p (k, d) := by
  rw [query, List.mem_insertionSort, List.mem_filter, mem_docs]

omit [LinearOrder κ] in
theorem docs_keys_nodup (c : Collection κ δ) : (c.docs.map Prod.fst).Nodup := by
  have h : c.docs.map Prod.fst = c.keys := by
    rw [docs, List.map_map]; rfl
  rw [h]; exact c.keys_nodup

theorem query_keys_nodup (c : Collection κ δ) (p : κ × δ → Bool) :
    ((c.query p).map Prod.fst).Nodup := by
  have hperm := (List.perm_insertionSort (fun a b : κ × δ => a.1 ≤ b.1) (c.docs.filter p)).map
    Prod.fst
  exact hperm.nodup_iff.mpr ((docs_keys_nodup c).sublist (List.filter_sublist.map _))

/-- A query answers in strictly increasing key order. -/
theorem query_sorted (c : Collection κ δ) (p : κ × δ → Bool) :
    (c.query p).Pairwise (fun a b => a.1 < b.1) := by
  have hle : (c.query p).Pairwise (fun a b => a.1 ≤ b.1) :=
    List.pairwise_insertionSort (fun a b : κ × δ => a.1 ≤ b.1) _
  have hne : (c.query p).Pairwise (fun a b => a.1 ≠ b.1) :=
    List.pairwise_map.mp (query_keys_nodup c p)
  exact (hle.and hne).imp (fun h => lt_of_le_of_ne h.1 h.2)

/-- Key order and the matches determine the answer of a query. -/
theorem eq_query {c : Collection κ δ} {p : κ × δ → Bool} {l : List (κ × δ)}
    (hsorted : l.Pairwise (fun a b => a.1 < b.1))
    (hmem : ∀ k d, (k, d) ∈ l ↔ c.lookup k = some d ∧ p (k, d)) : l = c.query p := by
  have hnodup : l.Nodup :=
    hsorted.imp (fun hlt heq => absurd (congrArg Prod.fst heq) (ne_of_lt hlt))
  have hperm : l.Perm (c.query p) := by
    refine (List.perm_ext_iff_of_nodup hnodup (query_keys_nodup c p).of_map).mpr ?_
    rintro ⟨k, d⟩
    rw [hmem, mem_query]
  refine hperm.eq_of_pairwise ?_ hsorted (query_sorted c p)
  intro a b _ _ hab hba
  exact absurd hab (lt_asymm hba)

/-- The matches of `p` that match `q` too. -/
theorem filter_query (c : Collection κ δ) (p q : κ × δ → Bool) :
    (c.query p).filter q = c.query (fun e => p e && q e) := by
  refine eq_query ((query_sorted c p).sublist List.filter_sublist) ?_
  intro k d
  rw [List.mem_filter, mem_query, Bool.and_eq_true, and_assoc]

/-! ## A part of a collection -/

/-- `part` holds the documents of `c` that satisfy `p`, under the keys they have in `c`. -/
def Restricts (p : δ → Bool) (c part : Collection κ δ) : Prop :=
  ∀ k, part.lookup k = (c.lookup k).filter p

variable {p : δ → Bool} {c part : Collection κ δ}

theorem Restricts.lookup_eq_some (h : Restricts p c part) {k : κ} {d : δ} :
    part.lookup k = some d ↔ c.lookup k = some d ∧ p d = true := by
  rw [h k, Option.filter_eq_some_iff]

/-- An update that does not move a document across `p` acts on both in the same way. -/
theorem Restricts.updateIf (h : Restricts p c part) (k : κ) (q : δ → Bool) (f : δ → δ)
    (hf : ∀ d, p (f d) = p d) : Restricts p (c.updateIf k q f) (part.updateIf k q f) := by
  intro j
  by_cases hj : j = k
  · subst hj
    rw [lookup_updateIf_self, lookup_updateIf_self, h j]
    cases c.lookup j with
    | none => rfl
    | some d =>
        -- the document stays on its side of `p`, whether `q` lets the update through or not
        have hg : p (if q d = true then f d else d) = p d := by
          split
          · exact hf d
          · rfl
        by_cases hp : p d = true
        · simp [Option.filter, hp, hg]
        · simp [Option.filter, hp, hg]
  · rw [lookup_updateIf_of_ne hj, lookup_updateIf_of_ne hj]
    exact h j

/-- A query on the part answers with the part of the answer. -/
theorem Restricts.query (h : Restricts p c part) (q : κ × δ → Bool) :
    part.query q = (c.query q).filter (fun e => p e.2) := by
  refine (eq_query ((query_sorted c q).sublist List.filter_sublist) ?_).symm
  intro k d
  rw [List.mem_filter, mem_query, h.lookup_eq_some]
  tauto

end Collection
