import V4vappDash.Lib.Machine
import V4vappDash.Watcher.Cursor

set_option autoImplicit false

/-! # Rotations of the watcher

Tick after tick the watcher walks through the watch set, page by page, while invoices are stored
and leave the set. From one moment at which the cursor is null to the next it goes through the
set once (`Rotation`): the batches of a rotation are a walk of the keyset library, and over a set
that stays the same they are as many as its size says (`rotation_exact`).
-/

namespace V4vappDash

open Keyset Machine

/-- What happens to the collection and the watcher: an iteration of the watcher, or anything that
others do to the collection between two of them. -/
inductive WatchAction
  | tick (input : TickInput)
  | change (invoices : Invoices)

def Watch.act (settings : Settings) (w : Watch) : WatchAction → Watch
  | .tick input => runWatcherOnce settings input w
  | .change invoices => { w with invoices }

def WatchAction.isTick : WatchAction → Bool
  | .tick _ => true
  | .change _ => false

/-- The query of a tick succeeds. -/
def WatchAction.Loads : WatchAction → Prop
  | .tick input => input.findError = none
  | .change _ => True

/-- The watch set when a tick loads its batch, and the `_id`s of the batch. -/
def Watch.load (settings : Settings) (w : Watch) :
    WatchAction → Option (List ObjectId × List ObjectId)
  | .tick input =>
      match input.findError with
      | none => some (watchSet w.invoices,
          batchIds w.invoices settings.dashWatchBatch w.watcher.lastId)
      | some _ => none
  | .change _ => none

/-- The loads of a run, in their order. -/
def Watch.loads (settings : Settings) (w : Watch) (actions : List WatchAction) :
    List (List ObjectId × List ObjectId) :=
  outputs (Watch.act settings) (Watch.load settings) w actions

/-- The run goes from one moment at which the cursor is null to the next: it is null before the
first load and after the last, and at no moment in between. -/
structure Rotation (settings : Settings) (w : Watch) (actions : List WatchAction) : Prop where
  start : w.watcher.lastId = none
  loaded : w.loads settings actions ≠ []
  finish : (run (Watch.act settings) w actions).watcher.lastId = none
  between : ∀ before after, actions = before ++ after → w.loads settings before ≠ [] →
    (run (Watch.act settings) w before).loads settings after ≠ [] →
    (run (Watch.act settings) w before).watcher.lastId ≠ none

section Walk

variable {settings : Settings}

theorem loads_tick {input : TickInput} (hload : input.findError = none) (w : Watch)
    (rest : List WatchAction) : w.loads settings (.tick input :: rest)
      = (watchSet w.invoices, batchIds w.invoices settings.dashWatchBatch w.watcher.lastId)
        :: (runWatcherOnce settings input w).loads settings rest := by
  unfold Watch.loads
  rw [outputs, Watch.load, hload]
  rfl

/-- Every tick of the run loads a batch. -/
theorem length_loads {actions : List WatchAction} (hload : ∀ a ∈ actions, a.Loads) (w : Watch) :
    (w.loads settings actions).length = actions.countP WatchAction.isTick := by
  induction actions generalizing w with
  | nil => rfl
  | cons a rest ih =>
      have hrest : ∀ b ∈ rest, b.Loads := fun b hb => hload b (List.mem_cons_of_mem _ hb)
      cases a with
      | change invoices => exact ih hrest { w with invoices }
      | tick input =>
          rw [loads_tick (hload _ List.mem_cons_self), List.length_cons, ih hrest,
            List.countP_cons_of_pos rfl]

theorem lastId_tick (hlimit : 1 ≤ settings.dashWatchBatch) {input : TickInput}
    (hload : input.findError = none) (w : Watch) :
    (runWatcherOnce settings input w).watcher.lastId
      = rotate settings.dashWatchBatch (watchSet w.invoices) w.watcher.lastId := by
  rw [runWatcherOnce_lastId, hload]
  exact nextCursor_eq hlimit

/-- The batch of a tick is a page of the watch set at that moment. -/
theorem isPage_batchIds (hlimit : 1 ≤ settings.dashWatchBatch) (w : Watch) :
    IsPage { id | id ∈ watchSet w.invoices } w.watcher.lastId
      (batchIds w.invoices settings.dashWatchBatch w.watcher.lastId)
      (rotate settings.dashWatchBatch (watchSet w.invoices) w.watcher.lastId) := by
  unfold rotate
  rw [batchIds_eq hlimit]
  refine isPage_wrap hlimit ?_ (fun k => mem_keysAfter)
  exact (watchSet_sorted w.invoices).sublist List.filter_sublist

/-- Without a load the cursor stays. -/
theorem lastId_of_loads {w : Watch} {actions : List WatchAction}
    (hload : ∀ a ∈ actions, a.Loads) (h : w.loads settings actions = []) :
    (run (Watch.act settings) w actions).watcher.lastId = w.watcher.lastId := by
  induction actions generalizing w with
  | nil => rfl
  | cons a rest ih =>
      cases a with
      | tick input =>
          rw [loads_tick (hload _ List.mem_cons_self)] at h
          cases h
      | change invoices =>
          exact ih (w := { w with invoices }) (fun b hb => hload b (List.mem_cons_of_mem _ hb)) h

/-- **The batches of a run without a null cursor in between are a walk.** -/
theorem walk_of_run (hlimit : 1 ≤ settings.dashWatchBatch) {actions : List WatchAction}
    (hload : ∀ a ∈ actions, a.Loads) (w : Watch)
    (hbetween : ∀ before after, actions = before ++ after → w.loads settings before ≠ [] →
      (run (Watch.act settings) w before).loads settings after ≠ [] →
      (run (Watch.act settings) w before).watcher.lastId ≠ none)
    (hloaded : w.loads settings actions ≠ [])
    (hfinish : (run (Watch.act settings) w actions).watcher.lastId = none) :
    Walk w.watcher.lastId ((w.loads settings actions).map (fun l => { id | id ∈ l.1 }))
      ((w.loads settings actions).map Prod.snd) true := by
  induction actions generalizing w with
  | nil => exact absurd rfl hloaded
  | cons a rest ih =>
      have hrest : ∀ b ∈ rest, b.Loads := fun b hb => hload b (List.mem_cons_of_mem _ hb)
      cases a with
      | change invoices =>
          refine ih hrest { w with invoices } ?_ hloaded hfinish
          rintro before after rfl hbefore hafter
          exact hbetween (.change invoices :: before) after rfl hbefore hafter
      | tick input =>
          have hfind : input.findError = none := hload _ List.mem_cons_self
          have hpage := isPage_batchIds hlimit w
          have hnext := lastId_tick hlimit hfind w
          have hfirst : w.loads settings [.tick input] ≠ [] := by
            rw [loads_tick hfind]
            exact List.cons_ne_nil _ _
          rw [loads_tick hfind, List.map_cons, List.map_cons]
          rw [← hnext] at hpage
          by_cases hmore : (runWatcherOnce settings input w).loads settings rest = []
          · -- the last load of the run
            have hstays := lastId_of_loads hrest hmore
            have hnull : (runWatcherOnce settings input w).watcher.lastId = none :=
              hstays.symm.trans hfinish
            rw [hmore]
            rw [hnull] at hpage
            exact .last hpage
          · have hne := hbetween [.tick input] rest rfl hfirst hmore
            obtain ⟨c, hc⟩ := Option.ne_none_iff_exists'.mp hne
            replace hc : (runWatcherOnce settings input w).watcher.lastId = some c := hc
            have hwalk := ih hrest (runWatcherOnce settings input w) ?_ hmore hfinish
            · rw [hc] at hpage hwalk
              exact .next hpage hwalk
            · rintro before after rfl hbefore hafter
              refine hbetween (.tick input :: before) after rfl ?_ hafter
              rw [loads_tick hfind]
              exact List.cons_ne_nil _ _

end Walk

/-! ## A watch set that stays the same -/

/-- The cursor after a number of loads of the same set. -/
theorem lastId_fixed {settings : Settings} (hlimit : 1 ≤ settings.dashWatchBatch)
    {actions : List WatchAction} (hload : ∀ a ∈ actions, a.Loads) {rows : List ObjectId}
    (w : Watch) (hfixed : ∀ l ∈ w.loads settings actions, l.1 = rows) :
    (run (Watch.act settings) w actions).watcher.lastId
      = (rotate settings.dashWatchBatch rows)^[(w.loads settings actions).length]
        w.watcher.lastId := by
  induction actions generalizing w with
  | nil => rfl
  | cons a rest ih =>
      have hrest : ∀ b ∈ rest, b.Loads := fun b hb => hload b (List.mem_cons_of_mem _ hb)
      cases a with
      | change invoices => exact ih hrest { w with invoices } hfixed
      | tick input =>
          have hfind : input.findError = none := hload _ List.mem_cons_self
          rw [loads_tick hfind] at hfixed ⊢
          have hrows : watchSet w.invoices = rows := hfixed _ List.mem_cons_self
          have hnext := lastId_tick hlimit hfind w
          rw [hrows] at hnext
          rw [List.length_cons, Function.iterate_succ_apply, ← hnext]
          exact ih hrest _ (fun l hl => hfixed l (List.mem_cons_of_mem _ hl))

/-- **Rotations.** In every run of ticks whose queries succeed, with anything happening to the
collection between them: in a rotation, the batches are in `_id` order without repetition, and
every invoice that is in the watch set at each of its loads is loaded once. When the watch set
is the same at each load, the cursor is null after a number of ticks if and only if it is a
multiple of the number of full batches plus one. -/
theorem rotation_exact (settings : Settings) (hlimit : 1 ≤ settings.dashWatchBatch) (w : Watch)
    (hstart : w.watcher.lastId = none) (actions : List WatchAction)
    (hload : ∀ a ∈ actions, a.Loads) :
    let loads := w.loads settings actions
    let batches := loads.map Prod.snd
    (Rotation settings w actions → batches.flatten.Pairwise (· < ·) ∧
      ∀ id, (∀ l ∈ loads, id ∈ l.1) → batches.flatten.count id = 1) ∧
    ((∀ l ∈ loads, l.1 = watchSet w.invoices) →
      ((run (Watch.act settings) w actions).watcher.lastId = none ↔
        (watchSet w.invoices).length / settings.dashWatchBatch + 1
          ∣ actions.countP WatchAction.isTick)) := by
  intro loads batches
  refine ⟨?_, ?_⟩
  · intro hrot
    have hwalk := walk_of_run hlimit hload w hrot.between hrot.loaded hrot.finish
    have hsorted : batches.flatten.Pairwise (· < ·) := hwalk.sorted
    refine ⟨hsorted, ?_⟩
    intro id hid
    have hmem : id ∈ batches.flatten := by
      refine hwalk.complete rfl ?_ ?_
      · rw [hrot.start]
        nofun
      · intro S hS
        obtain ⟨l, hl, rfl⟩ := List.mem_map.mp (List.mem_of_mem_take hS)
        exact hid l hl
    exact List.count_eq_one_of_mem (hsorted.imp (fun h => ne_of_lt h)) hmem
  · intro hfixed
    rw [lastId_fixed hlimit hload w hfixed, hstart,
      rotate_iterate_eq_none_iff hlimit (watchSet_sorted w.invoices), length_loads hload]

/-- A node without outputs. -/
def quietInput : TickInput where
  node :=
    { listunspent := fun _ => .ok []
      gettransaction := fun _ => .error (.dashdError "unknown transaction") }
  now := 0

/-- One invoice to a batch. -/
def oneByOne : Settings := { dashWatchBatch := 1 }

def twoWatched : Watch := ⟨twoInvoices, {}⟩

theorem loads_twoWatched :
    twoWatched.loads oneByOne (List.replicate 3 (.tick quietInput))
      = [([1, 2], [1]), ([1, 2], [2]), ([1, 2], [])] := rfl

theorem rotation_twoWatched :
    Rotation oneByOne twoWatched (List.replicate 3 (.tick quietInput)) := by
  have hfirst : (run (Watch.act oneByOne) twoWatched
      (List.replicate 1 (.tick quietInput))).watcher.lastId = some 1 := rfl
  have hsecond : (run (Watch.act oneByOne) twoWatched
      (List.replicate 2 (.tick quietInput))).watcher.lastId = some 2 := rfl
  refine ⟨rfl, ?_, rfl, ?_⟩
  · rw [loads_twoWatched]
    exact List.cons_ne_nil _ _
  · intro before after heq hbefore hafter
    obtain ⟨hlength, hb, ha⟩ := List.append_eq_replicate_iff.mp heq.symm
    generalize before.length = n at hlength hb
    subst hb
    match n with
    | 0 => exact absurd rfl hbefore
    | 1 =>
        rw [hfirst]
        exact nofun
    | 2 =>
        rw [hsecond]
        exact nofun
    | n + 3 =>
        have hnil : after = [] := List.length_eq_zero_iff.mp (by omega)
        rw [hnil] at hafter
        exact absurd rfl hafter

/-- The third tick finds nothing. -/
theorem rotation_exact_two :
    let actions := List.replicate 3 (WatchAction.tick quietInput)
    (∀ id ∈ [1, 2], ((twoWatched.loads oneByOne actions).map Prod.snd).flatten.count id = 1) ∧
      (run (Watch.act oneByOne) twoWatched actions).watcher.lastId = none := by
  intro actions
  have hload : ∀ a ∈ actions, a.Loads := by
    intro a ha
    obtain rfl := List.eq_of_mem_replicate ha
    exact rfl
  have hset : ∀ l ∈ twoWatched.loads oneByOne actions, l.1 = [1, 2] := by
    rw [loads_twoWatched]
    decide
  obtain ⟨honce, hnull⟩ := rotation_exact oneByOne (by decide) twoWatched rfl actions hload
  refine ⟨?_, (hnull hset).mpr (by decide)⟩
  intro id hid
  refine (honce rotation_twoWatched).2 id ?_
  intro l hl
  rw [hset l hl]
  exact hid

end V4vappDash
