import V4vappDash.Api.Create
import V4vappDash.Lib.Keyset
import V4vappDash.Watcher.Tick

set_option autoImplicit false

/-! # The rotation cursor

A tick moves the cursor on when it has loaded its batch, and nothing after that moves it
(`runWatcherOnce_lastId`). So a tick that then fails passes its batch over, unless the cursor
moves to where it was (`cursor_kept_iff`).
-/

namespace V4vappDash

open Keyset

/-- The `_id`s of the watch set, in order. -/
def watchSet (invoices : Invoices) : List ObjectId :=
  (Collection.query invoices (watchQuery none)).map Prod.fst

def batchIds (invoices : Invoices) (limit : Nat) (after : Option ObjectId) : List ObjectId :=
  (loadBatch invoices limit after).map Prod.fst

section Batch

variable {invoices : Invoices} {limit : Nat} {after : Option ObjectId}

theorem watchSet_sorted (invoices : Invoices) : (watchSet invoices).Pairwise (· < ·) :=
  List.pairwise_map.mpr (Collection.query_sorted invoices (watchQuery none))

theorem mem_watchSet {id : ObjectId} : id ∈ watchSet invoices ↔
    ∃ doc, invoices.lookup id = some doc ∧ doc.sweptAt = none ∧ doc.state ∈ WATCH_STATES := by
  unfold watchSet
  rw [List.mem_map]
  constructor
  · rintro ⟨⟨id, doc⟩, hmem, rfl⟩
    obtain ⟨hdoc, hquery⟩ := Collection.mem_query.mp hmem
    exact ⟨doc, hdoc, by simpa [watchQuery] using hquery⟩
  · rintro ⟨doc, hdoc, hquery⟩
    refine ⟨(id, doc), Collection.mem_query.mpr ⟨hdoc, ?_⟩, rfl⟩
    simpa [watchQuery] using hquery

theorem query_after (invoices : Invoices) (after : Option ObjectId) :
    (Collection.query invoices (watchQuery after)).map Prod.fst
      = keysAfter after (watchSet invoices) := by
  unfold keysAfter watchSet
  cases after with
  | none => exact (List.filter_true _).symm
  | some c =>
      have hquery : watchQuery (some c) = fun e => watchQuery none e && decide (c < e.1) := by
        funext e
        exact congrArg (· && decide (c < e.1)) (Bool.and_true _).symm
      rw [hquery, ← Collection.filter_query, List.filter_map]
      rfl

/-- The batch of a tick is a page of the watch set. -/
theorem batchIds_eq (hlimit : 1 ≤ limit) :
    batchIds invoices limit after = (keysAfter after (watchSet invoices)).take limit := by
  unfold batchIds loadBatch
  dsimp only
  rw [if_neg (by omega), List.map_take, query_after]

/-- The cursor after a batch that was loaded. -/
theorem nextCursor_eq (hlimit : 1 ≤ limit) :
    nextCursor limit (loadBatch invoices limit after) after
      = rotate limit (watchSet invoices) after := by
  have hids : batchIds invoices limit after = (keysAfter after (watchSet invoices)).take limit :=
    batchIds_eq hlimit
  unfold rotate
  rw [← hids]
  unfold nextCursor wrap batchIds
  rw [List.length_map, List.getLast?_map]
  split_ifs with hshort
  · rfl
  · cases hlast : (loadBatch invoices limit after).getLast? with
    | some e => rfl
    | none =>
        rw [List.getLast?_eq_none_iff.mp hlast] at hshort
        exact absurd hlimit (by simpa using hshort)

end Batch

/-! ## What a tick leaves of the cursor -/

section Tick

variable (settings : Settings) (input : TickInput)

theorem applyInvoice_watcher (id : ObjectId) (inv : InvoiceDoc) (utxos : List Utxo) (w : Watch) :
    ∃ stuck, (applyInvoice settings input id inv utxos w).1.watcher
      = { w.watcher with stuck } := by
  have hcount : ∀ d, ∃ stuck, (w.countStuck d).watcher = { w.watcher with stuck } := by
    intro d
    unfold Watch.countStuck
    split_ifs
    · exact ⟨_, rfl⟩
    · exact ⟨_, rfl⟩
  unfold applyInvoice
  cases decideInvoice settings input.node inv utxos input.now with
  | error e => exact ⟨_, rfl⟩
  | ok d =>
      dsimp only
      cases input.updateError id with
      | some message => exact hcount d
      | none =>
          cases persist (w.countStuck d).invoices id inv.state d input.now with
          | error e => exact hcount d
          | ok invoices => exact hcount d

/-- The loop over the batch counts stuck invoices and changes nothing else of the watcher. -/
theorem applyBatch_watcher (utxosFor : String → List Utxo)
    (batch : List (ObjectId × InvoiceDoc)) (w : Watch) :
    ∃ stuck, (applyBatch settings input utxosFor batch w).1.watcher
      = { w.watcher with stuck } := by
  induction batch generalizing w with
  | nil => exact ⟨_, rfl⟩
  | cons e rest ih =>
      obtain ⟨id, inv⟩ := e
      obtain ⟨n, hone⟩ := applyInvoice_watcher settings input id inv (utxosFor inv.address) w
      rw [applyBatch_cons]
      cases ha : applyInvoice settings input id inv (utxosFor inv.address) w with
      | mk w' result =>
          rw [ha] at hone
          cases result with
          | error e => exact ⟨n, hone⟩
          | ok u =>
              obtain ⟨m, hrest⟩ := ih w'
              refine ⟨m, ?_⟩
              dsimp only at hone ⊢
              rw [hrest, hone]

/-- **The cursor after a tick.** It only depends on what was loaded. -/
theorem runWatcherOnce_lastId (w : Watch) :
    (runWatcherOnce settings input w).watcher.lastId = match input.findError with
      | some _ => w.watcher.lastId
      | none => nextCursor settings.dashWatchBatch
          (loadBatch w.invoices settings.dashWatchBatch w.watcher.lastId) w.watcher.lastId := by
  unfold runWatcherOnce tick
  cases input.findError with
  | some message => rfl
  | none =>
      dsimp only
      let batch := loadBatch w.invoices settings.dashWatchBatch w.watcher.lastId
      show _ = nextCursor settings.dashWatchBatch batch w.watcher.lastId
      cases askNode input.node (batchAddresses batch) with
      | error e => cases e <;> rfl
      | ok raw =>
          dsimp only
          obtain ⟨stuck, hwatcher⟩ := applyBatch_watcher settings input
            (utxosByAddr (batchAddresses batch) raw) batch (w.afterLoad settings batch)
          cases ha : applyBatch settings input (utxosByAddr (batchAddresses batch) raw) batch
              (w.afterLoad settings batch) with
          | mk w' result =>
              rw [ha] at hwatcher
              have hlast := congrArg WatcherState.lastId hwatcher
              cases result <;> exact hlast

/-- The tick gets through its whole batch. -/
def Processes (w : Watch) : Prop :=
  let batch := loadBatch w.invoices settings.dashWatchBatch w.watcher.lastId
  input.findError = none ∧ ∃ raw, askNode input.node (batchAddresses batch) = .ok raw ∧
    (applyBatch settings input (utxosByAddr (batchAddresses batch) raw) batch
      (w.afterLoad settings batch)).2 = .ok ()

end Tick

/-! ## A batch that is not processed -/

section Kept

variable {settings : Settings} {w : Watch}

/-- Loading a batch leaves the cursor where it is: it is at the start, and fewer invoices than a
batch holds are watched, or a batch has no bound, and nothing is watched after the cursor. -/
def CursorStays (settings : Settings) (w : Watch) : Prop :=
  (w.watcher.lastId = none ∧ (watchSet w.invoices).length < settings.dashWatchBatch) ∨
    (settings.dashWatchBatch = 0 ∧ keysAfter w.watcher.lastId (watchSet w.invoices) = [])

/-- A batch ends after the cursor it starts at. -/
theorem nextCursor_ne {c : ObjectId} (hlimit : 1 ≤ settings.dashWatchBatch)
    (hlast : w.watcher.lastId = some c) :
    nextCursor settings.dashWatchBatch
      (loadBatch w.invoices settings.dashWatchBatch w.watcher.lastId) w.watcher.lastId
      ≠ w.watcher.lastId := by
  rw [nextCursor_eq hlimit, hlast]
  intro heq
  unfold rotate wrap at heq
  split_ifs at heq
  have hmem := List.mem_of_mem_take (List.mem_of_getLast? heq)
  exact lt_irrefl c ((mem_keysAfter.mp hmem).2 c rfl)

theorem nextCursor_none_iff (hlimit : 1 ≤ settings.dashWatchBatch)
    (hlast : w.watcher.lastId = none) :
    nextCursor settings.dashWatchBatch
      (loadBatch w.invoices settings.dashWatchBatch w.watcher.lastId) w.watcher.lastId = none ↔
    (watchSet w.invoices).length < settings.dashWatchBatch := by
  have hall : keysAfter none (watchSet w.invoices) = watchSet w.invoices :=
    List.filter_eq_self.mpr (fun _ _ => rfl)
  rw [nextCursor_eq hlimit, hlast]
  unfold rotate wrap
  rw [hall]
  rcases Nat.lt_or_ge (watchSet w.invoices).length settings.dashWatchBatch with hshort | hfull
  · rw [List.take_of_length_le hshort.le, if_pos hshort]
    exact iff_of_true rfl hshort
  · obtain ⟨items, c, -, htake, -⟩ := take_eq_concat hlimit hfull
    have hlength : ¬ ((watchSet w.invoices).take settings.dashWatchBatch).length
        < settings.dashWatchBatch := by
      rw [List.length_take]
      omega
    rw [if_neg hlength, htake, List.getLast?_concat]
    exact iff_of_false nofun (by omega)

theorem nextCursor_unbounded_iff (hlimit : settings.dashWatchBatch = 0) :
    nextCursor settings.dashWatchBatch
      (loadBatch w.invoices settings.dashWatchBatch w.watcher.lastId) w.watcher.lastId
      = w.watcher.lastId ↔
    keysAfter w.watcher.lastId (watchSet w.invoices) = [] := by
  have hload : loadBatch w.invoices settings.dashWatchBatch w.watcher.lastId
      = Collection.query w.invoices (watchQuery w.watcher.lastId) := by
    unfold loadBatch
    rw [if_pos hlimit]
  rw [hload, ← query_after, List.map_eq_nil_iff]
  unfold nextCursor
  rw [hlimit, if_neg (Nat.not_lt_zero _)]
  cases hlast : (Collection.query w.invoices (watchQuery w.watcher.lastId)).getLast? with
  | none => exact iff_of_true rfl (List.getLast?_eq_none_iff.mp hlast)
  | some e =>
      have hmem : (e.1, e.2) ∈ Collection.query w.invoices (watchQuery w.watcher.lastId) :=
        List.mem_of_getLast? hlast
      refine iff_of_false ?_ (List.ne_nil_of_mem hmem)
      intro heq
      -- what is loaded comes after the cursor
      have hquery := (Collection.mem_query.mp hmem).2
      rw [← heq] at hquery
      simp [watchQuery] at hquery

/-- Loading leaves the cursor where it is under this condition alone. -/
theorem cursorStays_iff : nextCursor settings.dashWatchBatch
      (loadBatch w.invoices settings.dashWatchBatch w.watcher.lastId) w.watcher.lastId
      = w.watcher.lastId ↔ CursorStays settings w := by
  unfold CursorStays
  rcases Nat.eq_zero_or_pos settings.dashWatchBatch with hzero | hpos
  · rw [nextCursor_unbounded_iff hzero]
    constructor
    · intro h
      exact Or.inr ⟨hzero, h⟩
    · rintro (⟨-, hlt⟩ | ⟨-, h⟩)
      · omega
      · exact h
  · constructor
    · intro h
      cases hlast : w.watcher.lastId with
      | none => exact Or.inl ⟨rfl, (nextCursor_none_iff hpos hlast).mp (h.trans hlast)⟩
      | some c => exact absurd h (nextCursor_ne hpos hlast)
    · rintro (⟨hlast, hlt⟩ | ⟨hzero, -⟩)
      · exact ((nextCursor_none_iff hpos hlast).mpr hlt).trans hlast.symm
      · omega

/-- **A batch that is not processed.** A tick that does not get through its batch leaves the
cursor where it was if and only if the query itself raised, or loading the batch did not move the
cursor. -/
theorem cursor_kept_iff (settings : Settings) (input : TickInput) (w : Watch)
    (_hfailed : ¬ Processes settings input w) :
    (runWatcherOnce settings input w).watcher.lastId = w.watcher.lastId ↔
      input.findError.isSome = true ∨ CursorStays settings w := by
  rw [runWatcherOnce_lastId]
  cases input.findError with
  | some message => exact iff_of_true rfl (Or.inl rfl)
  | none =>
      dsimp only
      rw [cursorStays_iff]
      simp

end Kept

/-! ## A node that does not answer -/

/-- Two watched invoices. -/
def twoInvoices : Invoices :=
  AList.insert 1 sampleInvoice (AList.insert 2 { sampleInvoice with externalId := "order-2" } ∅)

/-- `listunspent` fails. -/
def downInput : TickInput where
  node :=
    { listunspent := fun _ => .error (.dashdError "connection refused")
      gettransaction := fun _ => .error (.dashdError "connection refused") }
  now := 0

theorem not_processes_downInput (settings : Settings) {w : Watch}
    (h : (batchAddresses
      (loadBatch w.invoices settings.dashWatchBatch w.watcher.lastId)).isEmpty = false) :
    ¬ Processes settings downInput w := by
  rintro ⟨-, raw, hraw, -⟩
  unfold askNode at hraw
  rw [h] at hraw
  cases hraw

/-- Both invoices fit a batch, so the cursor stays at the start. -/
theorem cursor_kept_iff_whole :
    (runWatcherOnce {} downInput ⟨twoInvoices, {}⟩).watcher.lastId = none :=
  (cursor_kept_iff {} downInput ⟨twoInvoices, {}⟩ (not_processes_downInput {} rfl)).mpr
    (Or.inr (Or.inl ⟨rfl, by decide⟩))

/-- With one invoice to a batch, the first invoice is passed over. -/
theorem cursor_moved_without_node :
    let settings : Settings := { dashWatchBatch := 1 }
    let w : Watch := ⟨twoInvoices, {}⟩
    let w' := runWatcherOnce settings downInput w
    ¬ Processes settings downInput w ∧ batchIds w.invoices 1 w.watcher.lastId = [1] ∧
      w'.watcher.lastId ≠ w.watcher.lastId ∧ batchIds w'.invoices 1 w'.watcher.lastId = [2] :=
  ⟨not_processes_downInput _ rfl, rfl, nofun, rfl⟩

end V4vappDash
