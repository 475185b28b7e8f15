import Mathlib.Data.List.Induction
import Mathlib.Data.List.Nodup

set_option autoImplicit false

/-! # Insertion-ordered dictionaries

The dictionary of a scripting language: a list of items with pairwise distinct keys, in the
order in which the keys were first set. Setting a key that is present replaces its value in
place; setting a new key appends an item. `Dict.ofList` is the dictionary a comprehension
`{k: v for k, v in pairs}` builds: of several pairs with one key the *last* one gives the
value, while the *first* one gives the position.
-/

/-- An insertion-ordered dictionary. The keys are distinct by construction. -/
structure Dict (κ α : Type*) where
  items : List (κ × α)
  nodup_keys : (items.map Prod.fst).Nodup

namespace Dict

variable {κ α : Type*} [DecidableEq κ]

def empty : Dict κ α := ⟨[], List.nodup_nil⟩

/-- Set `k` in a list of items: in place when the key is present, else at the end. -/
def setItems (k : κ) (a : α) : List (κ × α) → List (κ × α)
  | [] => [(k, a)]
  | p :: t => if p.1 = k then (k, a) :: t else p :: setItems k a t

theorem mem_keys_setItems (k : κ) (a : α) (l : List (κ × α)) (j : κ) :
    j ∈ (setItems k a l).map Prod.fst ↔ j = k ∨ j ∈ l.map Prod.fst := by
  induction l with
  | nil => simp [setItems]
  | cons p t ih =>
      by_cases hp : p.1 = k
      · subst hp; simp [setItems]
      · rw [setItems, if_neg hp, List.map_cons, List.mem_cons, ih, List.map_cons, List.mem_cons]
        tauto

theorem nodup_keys_setItems (k : κ) (a : α) (l : List (κ × α))
    (h : (l.map Prod.fst).Nodup) : ((setItems k a l).map Prod.fst).Nodup := by
  induction l with
  | nil => simp [setItems]
  | cons p t ih =>
      rw [List.map_cons, List.nodup_cons] at h
      by_cases hp : p.1 = k
      · subst hp
        rw [setItems, if_pos rfl, List.map_cons, List.nodup_cons]
        exact h
      · rw [setItems, if_neg hp, List.map_cons, List.nodup_cons]
        refine ⟨?_, ih h.2⟩
        intro hmem
        rcases (mem_keys_setItems k a t p.1).mp hmem with heq | ht
        · exact hp heq
        · exact h.1 ht

def set (d : Dict κ α) (k : κ) (a : α) : Dict κ α :=
  ⟨setItems k a d.items, nodup_keys_setItems k a d.items d.nodup_keys⟩

/-- The value stored under `k`. -/
def get? (d : Dict κ α) (k : κ) : Option α :=
  (d.items.find? (fun p => p.1 = k)).map Prod.snd

/-- The dictionary of a comprehension over `l`. -/
def ofList (l : List (κ × α)) : Dict κ α :=
  l.foldl (fun d p => d.set p.1 p.2) empty

theorem mem_items_iff (d : Dict κ α) (k : κ) (a : α) :
    (k, a) ∈ d.items ↔ d.get? k = some a := by
  obtain ⟨items, hnd⟩ := d
  rw [get?]
  induction items with
  | nil => simp
  | cons p t ih =>
      rw [List.map_cons, List.nodup_cons] at hnd
      by_cases hp : p.1 = k
      · have hnot : (k, a) ∉ t := fun hmem =>
          hnd.1 (hp ▸ List.mem_map.mpr ⟨(k, a), hmem, rfl⟩)
        rw [List.find?_cons_of_pos (by simpa using hp), List.mem_cons]
        -- the item in front has the key, and no later one has it
        constructor
        · rintro (rfl | hmem)
          · rfl
          · exact absurd hmem hnot
        · intro h
          exact Or.inl (Prod.ext hp.symm (Option.some.inj h).symm)
      · rw [List.find?_cons_of_neg (by simpa using hp), ← ih hnd.2, List.mem_cons]
        constructor
        · rintro (rfl | hmem)
          · exact absurd rfl hp
          · exact hmem
        · exact Or.inr

theorem get?_set (d : Dict κ α) (k j : κ) (a : α) :
    (d.set k a).get? j = if j = k then some a else d.get? j := by
  obtain ⟨items, hnd⟩ := d
  simp only [get?, set]
  clear hnd
  induction items with
  | nil => by_cases hj : j = k <;> simp [setItems, hj, eq_comm]
  | cons p t ih =>
      by_cases hp : p.1 = k
      · by_cases hj : j = k
        · simp [setItems, hp, hj]
        · have hkj : ¬k = j := fun h => hj h.symm
          have hpj : ¬p.1 = j := fun h => hj (h.symm.trans hp)
          simp [setItems, hp, hj, hkj]
      · by_cases hpj : p.1 = j
        · have hj : ¬j = k := fun h => hp (hpj.trans h)
          simp [setItems, hpj, hj]
        · simpa [setItems, hp, hpj] using ih

/-- A dictionary built by a comprehension holds the pairs of the list, the last one of
each key. -/
theorem get?_ofList (l : List (κ × α)) (k : κ) :
    (ofList l).get? k = (l.reverse.find? (fun p => p.1 = k)).map Prod.snd := by
  induction l using List.reverseRecOn with
  | nil => rfl
  | append_singleton l p ih =>
      have hset : ofList (l ++ [p]) = (ofList l).set p.1 p.2 := by
        simp [ofList, List.foldl_append]
      rw [hset, get?_set, ih, List.reverse_append, List.reverse_singleton, List.singleton_append]
      by_cases hp : p.1 = k
      · rw [List.find?_cons_of_pos (by simpa using hp), if_pos hp.symm]; rfl
      · rw [List.find?_cons_of_neg (by simpa using hp), if_neg (fun h => hp h.symm)]

/-- The items of a comprehension: of the pairs with one key, the last one. -/
theorem mem_items_ofList {l : List (κ × α)} {k : κ} {a : α} :
    (k, a) ∈ (ofList l).items ↔
      ∃ before after, l = before ++ (k, a) :: after ∧ ∀ p ∈ after, p.1 ≠ k := by
  rw [mem_items_iff, get?_ofList, Option.map_eq_some_iff]
  constructor
  · rintro ⟨⟨k', a'⟩, hfind, rfl⟩
    obtain ⟨hkey, after, before, hl, hafter⟩ := List.find?_eq_some_iff_append.mp hfind
    obtain rfl : k' = k := by simpa using hkey
    refine ⟨before.reverse, after.reverse, ?_, ?_⟩
    · have hrev := congrArg List.reverse hl
      simpa using hrev
    · intro p hp
      simpa using hafter p (List.mem_reverse.mp hp)
  · rintro ⟨before, after, rfl, hafter⟩
    refine ⟨(k, a), List.find?_eq_some_iff_append.mpr ⟨by simp, after.reverse, before.reverse, ?_, ?_⟩,
      rfl⟩
    · simp
    · intro p hp
      simpa using hafter p (List.mem_reverse.mp hp)

theorem mem_of_get?_ofList {l : List (κ × α)} {k : κ} {a : α}
    (h : (ofList l).get? k = some a) : (k, a) ∈ l := by
  rw [get?_ofList, Option.map_eq_some_iff] at h
  obtain ⟨p, hp, rfl⟩ := h
  have hmem : p ∈ l := List.mem_reverse.mp (List.mem_of_find?_eq_some hp)
  have hkey : p.1 = k := by simpa using List.find?_some hp
  rwa [← hkey]

theorem exists_get?_ofList {l : List (κ × α)} {p : κ × α} (h : p ∈ l) :
    ∃ a, (ofList l).get? p.1 = some a := by
  rw [get?_ofList]
  cases hf : l.reverse.find? (fun q => q.1 = p.1) with
  | some q => exact ⟨q.2, rfl⟩
  | none =>
      have := List.find?_eq_none.mp hf p (List.mem_reverse.mpr h)
      simp at this

end Dict
