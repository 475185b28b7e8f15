import Mathlib.Data.Finset.Card
import Mathlib.Data.Prod.Lex
import Mathlib.Data.List.Sort
import Mathlib.Order.Defs.LinearOrder

set_option autoImplicit false

/-! # Keyset pagination

A collection is read page by page while it changes. A page holds the elements after a cursor, in
order, up to a limit; the cursor of the next page is the last element of this one. Only the keys
matter here: `IsPage` says what a page of a set of keys is, and `Walk` what a client has read who
follows the cursors, each page being one of the set as it is at that moment.

* `Walk.sorted`: what was read is strictly increasing, so nothing is read twice.
* `Walk.complete`: a key that is there all the time has been read when the last page has.
* `Walk.ends`: as long as all keys come from a finite set, there is a last page.
* `IsPage.waiting_lt`, `waiting_le`: where the pages wrap around, every key that stays is read
  after a number of pages.
-/

namespace Keyset

variable {κ : Type*} [LinearOrder κ]

/-- The key comes after the cursor, if there is one. -/
def After (cursor : Option κ) (k : κ) : Prop := ∀ c ∈ cursor, c < k

/-- `items` is the page of `S` after a cursor, and `next` the cursor it ends with. -/
structure IsPage (S : Set κ) (cursor : Option κ) (items : List κ) (next : Option κ) : Prop where
  sorted : items.Pairwise (· < ·)
  mem : ∀ k ∈ items, k ∈ S ∧ After cursor k
  next_mem : ∀ c ∈ next, c ∈ items
  le_next : ∀ c ∈ next, ∀ k ∈ items, k ≤ c
  /-- Nothing is left out before the next cursor, and without one nothing at all. -/
  complete : ∀ k ∈ S, After cursor k → (∀ c ∈ next, k ≤ c) → k ∈ items

/-- `Walk cursor sets pages ended`: a client who starts after `cursor`, and finds the sets one
after the other, has read these pages; `ended` when the last one had no cursor. -/
inductive Walk : Option κ → List (Set κ) → List (List κ) → Bool → Prop
  | stop {cursor : Option κ} : Walk cursor [] [] false
  | last {cursor : Option κ} {S : Set κ} {rest : List (Set κ)} {items : List κ}
      (h : IsPage S cursor items none) : Walk cursor (S :: rest) [items] true
  | next {cursor : Option κ} {S : Set κ} {rest : List (Set κ)} {items : List κ} {c : κ}
      {pages : List (List κ)} {ended : Bool} (h : IsPage S cursor items (some c))
      (hw : Walk (some c) rest pages ended) : Walk cursor (S :: rest) (items :: pages) ended

section Walk

variable {cursor : Option κ} {sets : List (Set κ)} {pages : List (List κ)} {ended : Bool}

theorem Walk.after (h : Walk cursor sets pages ended) : ∀ k ∈ pages.flatten, After cursor k := by
  induction h with
  | stop => nofun
  | last h =>
      intro k hk
      rw [List.flatten_singleton] at hk
      exact (h.mem k hk).2
  | @next cursor S rest items c pages ended h hw ih =>
      intro k hk
      rw [List.flatten_cons, List.mem_append] at hk
      rcases hk with hk | hk
      · exact (h.mem k hk).2
      · intro d hd
        -- later keys come after the next cursor, which is on this page
        have hdc : d < c := (h.mem c (h.next_mem c rfl)).2 d hd
        have hck : c < k := ih k hk c rfl
        exact hdc.trans hck

/-- **What was read is strictly increasing.** -/
theorem Walk.sorted (h : Walk cursor sets pages ended) : pages.flatten.Pairwise (· < ·) := by
  induction h with
  | stop => exact .nil
  | last h =>
      rw [List.flatten_singleton]
      exact h.sorted
  | @next cursor S rest items c pages ended h hw ih =>
      rw [List.flatten_cons, List.pairwise_append]
      refine ⟨h.sorted, ih, ?_⟩
      intro a ha b hb
      have hac : a ≤ c := h.le_next c rfl a ha
      have hcb : c < b := hw.after b hb c rfl
      exact lt_of_le_of_lt hac hcb

/-- **Completeness.** -/
theorem Walk.complete (h : Walk cursor sets pages ended) (hend : ended = true) {k : κ}
    (hafter : After cursor k) (hk : ∀ S ∈ sets.take pages.length, k ∈ S) :
    k ∈ pages.flatten := by
  induction h with
  | stop => cases hend
  | last h =>
      rw [List.flatten_singleton]
      exact h.complete k (hk _ List.mem_cons_self) hafter nofun
  | @next cursor S rest items c pages ended h hw ih =>
      rw [List.length_cons, List.take_succ_cons] at hk
      rw [List.flatten_cons, List.mem_append]
      rcases le_or_gt k c with hle | hlt
      · have hcomplete : ∀ d ∈ some c, k ≤ d := by
          rintro d ⟨⟩
          exact hle
        exact Or.inl (h.complete k (hk S List.mem_cons_self) hafter hcomplete)
      · refine Or.inr (ih hend ?_ (fun S hS => hk S (List.mem_cons_of_mem _ hS)))
        rintro d ⟨⟩
        exact hlt

/-- What was read was there. -/
theorem Walk.mem (h : Walk cursor sets pages ended) : ∀ k ∈ pages.flatten, ∃ S ∈ sets, k ∈ S := by
  induction h with
  | stop => nofun
  | last h =>
      intro k hk
      rw [List.flatten_singleton] at hk
      exact ⟨_, List.mem_cons_self, (h.mem k hk).1⟩
  | next h hw ih =>
      intro k hk
      rw [List.flatten_cons, List.mem_append] at hk
      rcases hk with hk | hk
      · exact ⟨_, List.mem_cons_self, (h.mem k hk).1⟩
      · obtain ⟨S, hS, hkS⟩ := ih k hk
        exact ⟨S, List.mem_cons_of_mem _ hS, hkS⟩

/-- A walk that has not ended has read a key for every set. -/
theorem Walk.length_le (h : Walk cursor sets pages ended) (hend : ended = false) :
    sets.length ≤ pages.flatten.length := by
  induction h with
  | stop => exact le_rfl
  | last h => cases hend
  | @next cursor S rest items c pages ended h hw ih =>
      have hpos : 0 < items.length := List.length_pos_of_mem (h.next_mem c rfl)
      have hrest := ih hend
      rw [List.flatten_cons, List.length_append, List.length_cons]
      omega

/-- **The last page.** -/
theorem Walk.ends (h : Walk cursor sets pages ended) {K : Finset κ}
    (hK : ∀ S ∈ sets, ∀ k ∈ S, k ∈ K) (hlength : K.card < sets.length) : ended = true := by
  cases hended : ended with
  | true => rfl
  | false =>
      have hle := h.length_le hended
      have hnodup : pages.flatten.Nodup := h.sorted.imp (fun hlt => ne_of_lt hlt)
      have hsub : pages.flatten.toFinset ⊆ K := by
        intro k hk
        obtain ⟨S, hS, hkS⟩ := h.mem k (List.mem_toFinset.mp hk)
        exact hK S hS k hkS
      have hcard := Finset.card_le_card hsub
      rw [List.toFinset_card_of_nodup hnodup] at hcard
      omega

end Walk

/-! ## Pages of sorted keys -/

section Pages

variable {S : Set κ} {cursor : Option κ} {limit : Nat} {rows : List κ}

/-- All of the keys make the last page. -/
theorem isPage_all (hsorted : rows.Pairwise (· < ·))
    (hrows : ∀ k, k ∈ rows ↔ k ∈ S ∧ After cursor k) : IsPage S cursor rows none := by
  refine ⟨hsorted, fun k hk => (hrows k).mp hk, nofun, nofun, ?_⟩
  intro k hk hafter _
  exact (hrows k).mpr ⟨hk, hafter⟩

/-- A page that ends with a key and leaves out only what comes after it. -/
theorem isPage_concat {items rest : List κ} {c : κ}
    (hsorted : (items ++ c :: rest).Pairwise (· < ·))
    (hrows : ∀ k, k ∈ items ++ c :: rest ↔ k ∈ S ∧ After cursor k) :
    IsPage S cursor (items ++ [c]) (some c) := by
  obtain ⟨hitems, hrest, hcross⟩ := List.pairwise_append.mp hsorted
  refine ⟨?_, ?_, ?_, ?_, ?_⟩
  · refine hsorted.sublist ((List.Sublist.refl items).append ?_)
    exact List.singleton_sublist.mpr List.mem_cons_self
  · intro k hk
    refine (hrows k).mp ?_
    rcases List.mem_append.mp hk with hk | hk
    · exact List.mem_append_left _ hk
    · obtain rfl := List.mem_singleton.mp hk
      exact List.mem_append_right _ List.mem_cons_self
  · rintro d ⟨⟩
    exact List.mem_append_right _ (List.mem_singleton_self c)
  · rintro d ⟨⟩ k hk
    rcases List.mem_append.mp hk with hk | hk
    · exact le_of_lt (hcross k hk c List.mem_cons_self)
    · exact le_of_eq (List.mem_singleton.mp hk)
  · intro k hk hafter hle
    rcases List.mem_append.mp ((hrows k).mpr ⟨hk, hafter⟩) with hmem | hmem
    · exact List.mem_append_left _ hmem
    · rcases List.mem_cons.mp hmem with rfl | hmem
      · exact List.mem_append_right _ (List.mem_singleton_self k)
      · -- what comes after the last key of the page is not asked for
        exact absurd ((List.pairwise_cons.mp hrest).1 k hmem) (not_lt.mpr (hle c rfl))

omit [LinearOrder κ] in
/-- A full page has a last key. -/
theorem take_eq_concat (hlimit : 1 ≤ limit) (hfull : limit ≤ rows.length) :
    ∃ items c, rows = items ++ c :: rows.drop limit ∧ rows.take limit = items ++ [c] ∧
      rows[limit - 1]? = some c := by
  obtain ⟨n, rfl⟩ : ∃ n, limit = n + 1 := ⟨limit - 1, by omega⟩
  have htake : rows.take (n + 1) = rows.take n ++ [rows[n]] :=
    List.take_succ_eq_append_getElem hfull
  refine ⟨rows.take n, rows[n], ?_, htake, List.getElem?_eq_getElem hfull⟩
  calc rows = rows.take (n + 1) ++ rows.drop (n + 1) := (List.take_append_drop _ rows).symm
    _ = rows.take n ++ rows[n] :: rows.drop (n + 1) := by
      rw [htake, List.append_assoc, List.singleton_append]

end Pages

/-! ## Pages with a look-ahead -/

section LookAhead

variable {ρ : Type*} (key : ρ → κ)

/-- A page out of one more row than it may hold: a row too many means that there is a next page. -/
def lookAhead (limit : Nat) (rows : List ρ) : List ρ × Option ρ :=
  if limit < rows.length then (rows.take limit, rows[limit - 1]?) else (rows, none)

variable {key}

/-- Rows with distinct keys, sorted. -/
theorem pairwise_insertionSort {rows : List ρ} (hnodup : (rows.map key).Nodup) :
    (rows.insertionSort (fun a b => key a ≤ key b)).Pairwise (fun a b => key a < key b) := by
  have hle : (rows.insertionSort (fun a b => key a ≤ key b)).Pairwise (fun a b => key a ≤ key b) :=
    List.pairwise_insertionSort _ _
  have hperm := (List.perm_insertionSort (fun a b => key a ≤ key b) rows).map key
  have hne : (rows.insertionSort (fun a b => key a ≤ key b)).Pairwise (fun a b => key a ≠ key b) :=
    List.pairwise_map.mp (hperm.nodup_iff.mpr hnodup)
  exact (hle.and hne).imp (fun h => lt_of_le_of_ne h.1 h.2)

variable {S : Set κ} {cursor : Option κ} {limit : Nat} {rows : List ρ}

omit [LinearOrder κ] in
theorem lookAhead_mem {limit : Nat} {rows items : List ρ} {last : Option ρ} (hlimit : 1 ≤ limit)
    (h : lookAhead limit rows = (items, last)) :
    (∀ r ∈ items, r ∈ rows) ∧ ∀ r ∈ last, r ∈ items := by
  unfold lookAhead at h
  split_ifs at h with hmore
  · cases h
    refine ⟨fun r hr => List.mem_of_mem_take hr, ?_⟩
    intro r hr
    obtain ⟨hi, rfl⟩ := List.getElem?_eq_some_iff.mp hr
    exact List.mem_take_iff_getElem.mpr ⟨limit - 1, by omega, rfl⟩
  · cases h
    exact ⟨fun r hr => hr, nofun⟩

omit [LinearOrder κ] in
theorem lookAhead_take (limit : Nat) (rows : List ρ) :
    lookAhead limit (rows.take (limit + 1))
      = if limit < rows.length then (rows.take limit, rows[limit - 1]?) else (rows, none) := by
  unfold lookAhead
  by_cases hmore : limit < rows.length
  · have hlook : limit < (rows.take (limit + 1)).length := by
      rw [List.length_take]
      omega
    rw [if_pos hlook, if_pos hmore, List.take_take, min_eq_left (by omega),
      List.getElem?_take_of_lt (by omega)]
  · have hall : rows.take (limit + 1) = rows := List.take_of_length_le (by omega)
    rw [hall, if_neg hmore]

/-- Of the rows after the cursor, sorted, the first ones make a page. -/
theorem isPage_lookAhead (hlimit : 1 ≤ limit) (hsorted : rows.Pairwise (fun a b => key a < key b))
    (hrows : ∀ k, (∃ r ∈ rows, key r = k) ↔ k ∈ S ∧ After cursor k) :
    IsPage S cursor ((lookAhead limit (rows.take (limit + 1))).1.map key)
      ((lookAhead limit (rows.take (limit + 1))).2.map key) := by
  have hkeys : (rows.map key).Pairwise (· < ·) := List.pairwise_map.mpr hsorted
  have hmem : ∀ k, k ∈ rows.map key ↔ k ∈ S ∧ After cursor k := by
    intro k
    rw [List.mem_map]
    exact hrows k
  rw [lookAhead_take]
  by_cases hmore : limit < rows.length
  · have hfull : limit ≤ (rows.map key).length := by
      rw [List.length_map]
      exact hmore.le
    obtain ⟨items, c, heq, htake, hlast⟩ := take_eq_concat hlimit hfull
    rw [if_pos hmore]
    dsimp only
    rw [List.map_take, ← List.getElem?_map, htake, hlast]
    rw [heq] at hkeys hmem
    exact isPage_concat hkeys hmem
  · rw [if_neg hmore]
    exact isPage_all hkeys hmem

end LookAhead

/-! ## Pages that wrap around

A page that is not full is the last one, and the walk starts again. A full page is followed by
another one, even when it held the last key. -/

section Wrap

/-- The cursor after a page of at most `limit` keys. -/
def wrap (limit : Nat) (items : List κ) : Option κ :=
  if items.length < limit then none else items.getLast?

/-- The keys after a cursor. -/
def keysAfter (cursor : Option κ) (rows : List κ) : List κ :=
  rows.filter (fun k => match cursor with | some c => c < k | none => true)

/-- The first of some sorted keys are those with few smaller ones. -/
theorem mem_take_sorted {rows : List κ} (hsorted : rows.Pairwise (· < ·)) {n : Nat} {k : κ} :
    k ∈ rows.take n ↔ k ∈ rows ∧ (rows.filter (· < k)).length < n := by
  induction rows generalizing n with
  | nil => simp
  | cons a rest ih =>
      obtain ⟨hfirst, hrest⟩ := List.pairwise_cons.mp hsorted
      cases n with
      | zero => simp
      | succ n =>
          rw [List.take_succ_cons, List.mem_cons, List.mem_cons, ih hrest]
          by_cases hk : k ∈ rest
          · -- a later key has the first one before it
            have hlt := hfirst k hk
            have hkept : (a :: rest).filter (· < k) = a :: rest.filter (· < k) :=
              List.filter_cons_of_pos (by simpa using hlt)
            rw [hkept, List.length_cons]
            simp only [hk, true_and, or_true, hlt.ne', false_or, Nat.add_lt_add_iff_right]
          · simp only [hk, false_and, or_false, iff_self_and]
            rintro rfl
            have hnone : (k :: rest).filter (· < k) = [] := by
              rw [List.filter_eq_nil_iff]
              intro b hb
              rcases List.mem_cons.mp hb with rfl | hb
              · simp
              · simpa using (hfirst b hb).le
            rw [hnone]
            exact Nat.succ_pos n

/-- The cursor after the next page of the same keys. -/
def rotate (limit : Nat) (rows : List κ) (cursor : Option κ) : Option κ :=
  wrap limit ((keysAfter cursor rows).take limit)

variable {S : Set κ} {cursor : Option κ} {limit : Nat} {rows : List κ}

theorem mem_keysAfter {k : κ} : k ∈ keysAfter cursor rows ↔ k ∈ rows ∧ After cursor k := by
  unfold keysAfter After
  cases cursor <;> simp

/-- Of the keys after the cursor, sorted, the first ones make a page. -/
theorem isPage_wrap (hlimit : 1 ≤ limit) (hsorted : rows.Pairwise (· < ·))
    (hrows : ∀ k, k ∈ rows ↔ k ∈ S ∧ After cursor k) :
    IsPage S cursor (rows.take limit) (wrap limit (rows.take limit)) := by
  unfold wrap
  rcases Nat.lt_or_ge rows.length limit with hshort | hfull
  · rw [List.take_of_length_le hshort.le, if_pos hshort]
    exact isPage_all hsorted hrows
  · obtain ⟨items, c, heq, htake, -⟩ := take_eq_concat hlimit hfull
    have hlength : ¬ (rows.take limit).length < limit := by
      rw [List.length_take]
      omega
    rw [if_neg hlength, htake, List.getLast?_concat]
    rw [heq] at hsorted hrows
    exact isPage_concat hsorted hrows

/-! ### Rotation over keys that stay the same -/

theorem keysAfter_getElem (hsorted : rows.Pairwise (· < ·)) {i : Nat} (hi : i < rows.length) :
    keysAfter (some rows[i]) rows = rows.drop (i + 1) := by
  have hlt := List.pairwise_iff_getElem.mp hsorted
  have hbefore : ∀ k ∈ rows.take (i + 1), ¬ rows[i] < k := by
    intro k hk
    obtain ⟨j, hj, rfl⟩ := List.mem_take_iff_getElem.mp hk
    rcases Nat.lt_or_ge j i with hji | hge
    · exact lt_asymm (hlt j i (by omega) hi hji)
    · have heq : j = i := by omega
      subst heq
      exact lt_irrefl _
  have hafter : ∀ k ∈ rows.drop (i + 1), rows[i] < k := by
    intro k hk
    obtain ⟨j, hj, rfl⟩ := List.mem_drop_iff_getElem.mp hk
    exact hlt i _ hi _ (by omega)
  have hsplit : rows.filter (fun k => rows[i] < k)
      = (rows.take (i + 1) ++ rows.drop (i + 1)).filter (fun k => rows[i] < k) := by
    rw [List.take_append_drop]
  show rows.filter (fun k => rows[i] < k) = _
  rw [hsplit, List.filter_append,
    List.filter_eq_nil_iff.mpr (fun k hk => by simpa using hbefore k hk),
    List.filter_eq_self.mpr (fun k hk => by simpa using hafter k hk), List.nil_append]

/-- The cursor after `k` full pages. -/
def cursorAt (limit : Nat) (rows : List κ) (k : Nat) : Option κ :=
  if k = 0 then none else rows[k * limit - 1]?

omit [LinearOrder κ] in
theorem mul_le_of_le_div {k : Nat} (hk : k ≤ rows.length / limit) :
    k * limit ≤ rows.length :=
  (Nat.mul_le_mul_right limit hk).trans (Nat.div_mul_le_self _ _)

omit [LinearOrder κ] in
theorem cursorAt_eq_none_iff {k : Nat} (hlimit : 1 ≤ limit) (hk : k ≤ rows.length / limit) :
    cursorAt limit rows k = none ↔ k = 0 := by
  unfold cursorAt
  rcases Nat.eq_zero_or_pos k with rfl | hpos
  · simp
  · have hle := mul_le_of_le_div hk
    have hprod : 1 ≤ k * limit := Nat.mul_pos hpos hlimit
    rw [if_neg hpos.ne', List.getElem?_eq_none_iff]
    exact iff_of_false (by omega) hpos.ne'

theorem keysAfter_cursorAt (hlimit : 1 ≤ limit) (hsorted : rows.Pairwise (· < ·)) {k : Nat}
    (hk : k ≤ rows.length / limit) :
    keysAfter (cursorAt limit rows k) rows = rows.drop (k * limit) := by
  unfold cursorAt
  rcases Nat.eq_zero_or_pos k with rfl | hpos
  · rw [if_pos rfl, Nat.zero_mul, List.drop_zero]
    exact List.filter_eq_self.mpr (fun _ _ => rfl)
  · have hle := mul_le_of_le_div hk
    have hprod : 1 ≤ k * limit := Nat.mul_pos hpos hlimit
    have hi : k * limit - 1 < rows.length := by omega
    rw [if_neg hpos.ne', List.getElem?_eq_getElem hi, keysAfter_getElem hsorted hi,
      Nat.sub_add_cancel hprod]

/-- **One page of the rotation.** -/
theorem rotate_cursorAt (hlimit : 1 ≤ limit) (hsorted : rows.Pairwise (· < ·)) {k : Nat}
    (hk : k ≤ rows.length / limit) :
    rotate limit rows (cursorAt limit rows k)
      = cursorAt limit rows ((k + 1) % (rows.length / limit + 1)) := by
  unfold rotate wrap
  rw [keysAfter_cursorAt hlimit hsorted hk, List.length_take, List.length_drop]
  have hle := mul_le_of_le_div hk
  have hmul : (k + 1) * limit = k * limit + limit := Nat.succ_mul k limit
  rcases hk.lt_or_eq with hlt | heq
  · -- a full page
    have hfull : (k + 1) * limit ≤ rows.length := mul_le_of_le_div hlt
    have hdrop : limit ≤ (rows.drop (k * limit)).length := by
      rw [List.length_drop]
      omega
    obtain ⟨items, c, -, htake, hlast⟩ := take_eq_concat hlimit hdrop
    rw [if_neg (by omega), htake, List.getLast?_concat, Nat.mod_eq_of_lt (by omega), cursorAt,
      if_neg (by omega), ← hlast, List.getElem?_drop]
    congr 1
    omega
  · -- the last page is never full
    have hshort : rows.length < (k + 1) * limit := by
      rw [heq]
      exact Nat.lt_mul_of_div_lt (Nat.lt_succ_self _) hlimit
    rw [if_pos (by omega), heq, Nat.mod_self]
    rfl

/-- **The rotation.** Over keys that stay the same, the cursor after any number of pages. -/
theorem rotate_iterate (hlimit : 1 ≤ limit) (hsorted : rows.Pairwise (· < ·)) (n : Nat) :
    (rotate limit rows)^[n] none = cursorAt limit rows (n % (rows.length / limit + 1)) := by
  induction n with
  | zero => rfl
  | succ n ih =>
      have hk : n % (rows.length / limit + 1) ≤ rows.length / limit :=
        Nat.le_of_lt_succ (Nat.mod_lt _ (Nat.succ_pos _))
      rw [Function.iterate_succ_apply', ih, rotate_cursorAt hlimit hsorted hk,
        Nat.mod_add_mod]

/-- The walk starts again after a number of pages that only depends on the number of keys. -/
theorem rotate_iterate_eq_none_iff (hlimit : 1 ≤ limit) (hsorted : rows.Pairwise (· < ·))
    (n : Nat) : (rotate limit rows)^[n] none = none ↔ rows.length / limit + 1 ∣ n := by
  have hk : n % (rows.length / limit + 1) ≤ rows.length / limit :=
    Nat.le_of_lt_succ (Nat.mod_lt _ (Nat.succ_pos _))
  rw [rotate_iterate hlimit hsorted, cursorAt_eq_none_iff hlimit hk, Nat.dvd_iff_mod_eq_zero]

end Wrap

/-! ## How long a key waits

Whatever happens to the keys between the pages, as long as they all come from a finite set: every
page that wraps around and does not hold a key brings the reader nearer to it. -/

section Waiting

instance (cursor : Option κ) : DecidablePred (After cursor) :=
  fun k => inferInstanceAs (Decidable (∀ c ∈ cursor, c < k))

/-- A bound on the pages before the one with `k`: those up to `k`, or, when the cursor has passed
`k`, those up to the end of `U` and then up to `k`. -/
def waiting (limit : Nat) (U : Finset κ) (k : κ) (cursor : Option κ) : Nat :=
  if After cursor k then (U.filter (fun u => After cursor u ∧ u < k)).card / limit
  else (U.filter (After cursor)).card / limit + 1 + (U.filter (· < k)).card / limit

variable {S : Set κ} {U : Finset κ} {k : κ} {limit : Nat} {cursor next : Option κ}
  {items : List κ}

theorem waiting_of_after (h : After cursor k) :
    waiting limit U k cursor = (U.filter (fun u => After cursor u ∧ u < k)).card / limit :=
  if_pos h

theorem waiting_of_not_after (h : ¬ After cursor k) :
    waiting limit U k cursor
      = (U.filter (After cursor)).card / limit + 1 + (U.filter (· < k)).card / limit :=
  if_neg h

/-- Keys of `U` that leave a set make it smaller. -/
theorem card_add_length_le {p q : κ → Prop} [DecidablePred p] [DecidablePred q]
    (hnodup : items.Nodup) (hitems : ∀ u ∈ items, u ∈ U ∧ p u ∧ ¬ q u) (hq : ∀ u, q u → p u) :
    (U.filter q).card + items.length ≤ (U.filter p).card := by
  have hdisjoint : Disjoint (U.filter q) items.toFinset := by
    rw [Finset.disjoint_left]
    intro u hu hmem
    exact (hitems u (List.mem_toFinset.mp hmem)).2.2 (Finset.mem_filter.mp hu).2
  have hsub : U.filter q ∪ items.toFinset ⊆ U.filter p := by
    intro u hu
    rw [Finset.mem_filter]
    rcases Finset.mem_union.mp hu with hu | hu
    · obtain ⟨hU, hu⟩ := Finset.mem_filter.mp hu
      exact ⟨hU, hq u hu⟩
    · obtain ⟨hU, hu, -⟩ := hitems u (List.mem_toFinset.mp hu)
      exact ⟨hU, hu⟩
  calc (U.filter q).card + items.length
      = (U.filter q).card + items.toFinset.card := by rw [List.toFinset_card_of_nodup hnodup]
    _ = (U.filter q ∪ items.toFinset).card := (Finset.card_union_of_disjoint hdisjoint).symm
    _ ≤ (U.filter p).card := Finset.card_le_card hsub

/-- A number that has gone down by a full page. -/
theorem div_add_one_le {a b limit : Nat} (hlimit : 1 ≤ limit) (h : a + limit ≤ b) :
    a / limit + 1 ≤ b / limit := by
  rw [← Nat.add_div_right a hlimit]
  exact Nat.div_le_div_right h

/-- **A page without the key.** It ends with the start or is a full one, and the key waits for one
page less. -/
theorem IsPage.waiting_lt (h : IsPage S cursor items next) (hlimit : 1 ≤ limit)
    (hfull : next = none ∨ items.length = limit) (hU : ∀ u ∈ S, u ∈ U) (hk : k ∈ S)
    (hnot : k ∉ items) : waiting limit U k next + 1 ≤ waiting limit U k cursor := by
  have hnodup : items.Nodup := h.sorted.imp (fun hlt => ne_of_lt hlt)
  cases next with
  | none =>
      -- nothing after the cursor is left out, so the cursor has passed the key
      have hpassed : ¬ After cursor k := fun hafter => hnot (h.complete k hk hafter nofun)
      have hstart : ∀ u, After none u ∧ u < k ↔ u < k := fun u => ⟨And.right, fun hu => ⟨nofun, hu⟩⟩
      rw [waiting_of_not_after hpassed, waiting_of_after nofun]
      simp only [hstart]
      rw [Nat.add_right_comm]
      exact Nat.succ_le_succ (Nat.le_add_left _ _)
  | some c =>
      have hlength : items.length = limit := hfull.resolve_left nofun
      have hc : After cursor c := (h.mem c (h.next_mem c rfl)).2
      by_cases hafter : After cursor k
      · have hck : c < k := by
          by_contra hle
          refine hnot (h.complete k hk hafter ?_)
          rintro d ⟨⟩
          exact not_lt.mp hle
        have hnext : After (some c) k := by
          rintro d ⟨⟩
          exact hck
        rw [waiting_of_after hafter, waiting_of_after hnext]
        refine div_add_one_le hlimit ?_
        rw [← hlength]
        refine card_add_length_le hnodup ?_ ?_
        · intro u hu
          have hle : u ≤ c := h.le_next c rfl u hu
          refine ⟨hU u (h.mem u hu).1, ⟨(h.mem u hu).2, lt_of_le_of_lt hle hck⟩, ?_⟩
          rintro ⟨hlt, -⟩
          exact absurd (hlt c rfl) (not_lt.mpr hle)
        · rintro u ⟨hu, hlt⟩
          exact ⟨fun d hd => (hc d hd).trans (hu c rfl), hlt⟩
      · have hnext : ¬ After (some c) k := fun hck =>
          hafter (fun d hd => (hc d hd).trans (hck c rfl))
        have hless : (U.filter (After (some c))).card / limit + 1
            ≤ (U.filter (After cursor)).card / limit := by
          refine div_add_one_le hlimit ?_
          rw [← hlength]
          refine card_add_length_le hnodup ?_ ?_
          · intro u hu
            refine ⟨hU u (h.mem u hu).1, (h.mem u hu).2, ?_⟩
            intro hlt
            exact absurd (hlt c rfl) (not_lt.mpr (h.le_next c rfl u hu))
          · exact fun u hu d hd => (hc d hd).trans (hu c rfl)
        rw [waiting_of_not_after hafter, waiting_of_not_after hnext]
        omega

omit [LinearOrder κ] in
/-- A page that wraps around ends with the start or is a full one. -/
theorem wrap_full (hle : items.length ≤ limit) :
    wrap limit items = none ∨ items.length = limit := by
  unfold wrap
  split_ifs with hshort
  · exact Or.inl rfl
  · exact Or.inr (by omega)

/-- **The bound.** At most once around. -/
theorem waiting_le (hk : k ∈ U) (cursor : Option κ) :
    waiting limit U k cursor ≤ (U.card - 1) / limit + 1 := by
  have hcard : (U.erase k).card = U.card - 1 := Finset.card_erase_of_mem hk
  by_cases hafter : After cursor k
  · have hsub : U.filter (fun u => After cursor u ∧ u < k) ⊆ U.erase k := by
      intro u hu
      obtain ⟨hU, -, hlt⟩ := Finset.mem_filter.mp hu
      exact Finset.mem_erase.mpr ⟨ne_of_lt hlt, hU⟩
    have hle := Finset.card_le_card hsub
    rw [hcard] at hle
    rw [waiting_of_after hafter]
    exact (Nat.div_le_div_right hle).trans (Nat.le_succ _)
  · have hbefore : ∀ u, After cursor u → k < u := by
      intro u hu
      obtain ⟨c, hc, hle⟩ : ∃ c ∈ cursor, k ≤ c := by
        unfold After at hafter
        push Not at hafter
        exact hafter
      exact lt_of_le_of_lt hle (hu c hc)
    have hdisjoint : Disjoint (U.filter (After cursor)) (U.filter (· < k)) := by
      rw [Finset.disjoint_left]
      intro u hu hlt
      exact lt_asymm (hbefore u (Finset.mem_filter.mp hu).2) (Finset.mem_filter.mp hlt).2
    have hsub : U.filter (After cursor) ∪ U.filter (· < k) ⊆ U.erase k := by
      intro u hu
      rw [Finset.mem_erase]
      rcases Finset.mem_union.mp hu with hu | hu
      · obtain ⟨hU, hu⟩ := Finset.mem_filter.mp hu
        exact ⟨(ne_of_lt (hbefore u hu)).symm, hU⟩
      · obtain ⟨hU, hu⟩ := Finset.mem_filter.mp hu
        exact ⟨ne_of_lt hu, hU⟩
    have hle := Finset.card_le_card hsub
    rw [Finset.card_union_of_disjoint hdisjoint, hcard] at hle
    rw [waiting_of_not_after hafter, Nat.add_right_comm]
    exact Nat.succ_le_succ (Nat.div_add_div_le_add_div.trans (Nat.div_le_div_right hle))

end Waiting

end Keyset
