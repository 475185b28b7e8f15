import V4vappDash.System.History
import V4vappDash.Watcher.Cursor

set_option autoImplicit false

/-! # Invoices of several networks

The watch query does not ask for the network, so a batch may hold invoices that the watcher's
node knows nothing about. A tick is as good as one on its own network's invoices alone exactly
when no other one has its turn: `tick_own_network`.
-/

namespace V4vappDash

open Interleaving Keyset

/-- The invoices of a network. -/
def onNetwork (network : Network) (doc : InvoiceDoc) : Bool := doc.network = network

/-- `own` is `w` without the invoices of other networks. -/
structure OwnPart (network : Network) (w own : Watch) : Prop where
  invoices : Collection.Restricts (onNetwork network) w.invoices own.invoices
  watcher : own.watcher = w.watcher

/-! ## Two ticks side by side -/

section Lockstep

variable {network : Network} {w own : Watch}

theorem OwnPart.countStuck (h : OwnPart network w own) (d : Decision) :
    OwnPart network (w.countStuck d) (own.countStuck d) := by
  constructor
  · rw [Watch.countStuck_invoices, Watch.countStuck_invoices]
    exact h.invoices
  · unfold Watch.countStuck
    split
    · rw [h.watcher]
    · exact h.watcher

/-- Handling an invoice has the same result with and without the other networks. -/
theorem OwnPart.applyInvoice (h : OwnPart network w own) (settings : Settings)
    (input : TickInput) (id : ObjectId) (inv : InvoiceDoc)
    (utxos : List Utxo) :
    (applyInvoice settings input id inv utxos own).2
        = (applyInvoice settings input id inv utxos w).2 ∧
      OwnPart network (applyInvoice settings input id inv utxos w).1
        (applyInvoice settings input id inv utxos own).1 := by
  unfold V4vappDash.applyInvoice
  cases hd : decideInvoice settings input.node inv utxos input.now with
  | error e => exact ⟨rfl, h⟩
  | ok d =>
      have hstuck := h.countStuck d
      -- an update does not change the network of a document
      have hupdate := h.invoices.updateIf id
        (fun doc => persistFilter inv.state d.state doc.state) (d.update input.now)
        (fun doc => rfl)
      dsimp only
      cases hu : input.updateError id with
      | some message => exact ⟨rfl, hstuck⟩
      | none =>
          unfold persist
          rw [Watch.countStuck_invoices, Watch.countStuck_invoices]
          by_cases hints : d.ints.all bsonInt64 = true
          · rw [if_pos hints, if_pos hints]
            exact ⟨rfl, hupdate, hstuck.watcher⟩
          · rw [if_neg hints, if_neg hints]
            exact ⟨rfl, hstuck⟩

theorem OwnPart.applyBatch (h : OwnPart network w own) (settings : Settings)
    (input : TickInput) (utxosFor : String → List Utxo) (batch : List (ObjectId × InvoiceDoc)) :
    (applyBatch settings input utxosFor batch own).2
        = (applyBatch settings input utxosFor batch w).2 ∧
      OwnPart network (applyBatch settings input utxosFor batch w).1
        (applyBatch settings input utxosFor batch own).1 := by
  induction batch generalizing w own with
  | nil => exact ⟨rfl, h⟩
  | cons e rest ih =>
      obtain ⟨id, inv⟩ := e
      have hone := h.applyInvoice settings input id inv (utxosFor inv.address)
      rw [applyBatch_cons, applyBatch_cons]
      cases hw : V4vappDash.applyInvoice settings input id inv (utxosFor inv.address) w with
      | mk w' result =>
          cases ho : V4vappDash.applyInvoice settings input id inv (utxosFor inv.address) own with
          | mk own' result' =>
              rw [hw, ho] at hone
              obtain ⟨rfl, hpart⟩ : result' = result ∧ OwnPart network w' own' := hone
              cases result' with
              | error e => exact ⟨rfl, hpart⟩
              | ok u => exact ih hpart

end Lockstep

/-! ## The batch -/

/-- Taking a prefix whose elements all pass a filter is the same before and after it. -/
theorem take_filter_of_forall {α : Type} (p : α → Bool) (l : List α) (n : Nat)
    (h : ∀ x ∈ l.take n, p x = true) : (l.filter p).take n = l.take n := by
  induction l generalizing n with
  | nil => rfl
  | cons a t ih =>
      cases n with
      | zero => rfl
      | succ n =>
          have ha : p a = true := h a (by simp)
          rw [List.filter_cons_of_pos ha, List.take_succ_cons, List.take_succ_cons,
            ih n (fun x hx => h x (by simp [hx]))]

/-- A batch without invoices of other networks is the batch loaded from the own part. -/
theorem loadBatch_ownPart {network : Network} {invoices own : Invoices} {limit : Nat}
    {after : Option ObjectId} (h : Collection.Restricts (onNetwork network) invoices own)
    (hown : ∀ e ∈ loadBatch invoices limit after, e.2.network = network) :
    loadBatch own limit after = loadBatch invoices limit after := by
  have hquery := h.query (watchQuery after)
  unfold loadBatch at hown ⊢
  dsimp only at hown ⊢
  by_cases hlimit : limit = 0
  · rw [if_pos hlimit] at hown
    rw [if_pos hlimit, if_pos hlimit, hquery, List.filter_eq_self]
    intro e he
    simpa [onNetwork] using hown e he
  · rw [if_neg hlimit] at hown
    rw [if_neg hlimit, if_neg hlimit, hquery]
    apply take_filter_of_forall
    intro e he
    simpa [onNetwork] using hown e he

/-- The watched invoices that come between the cursor and an `_id`. -/
def Watch.before (w : Watch) (id : ObjectId) : List ObjectId :=
  (keysAfter w.watcher.lastId (watchSet w.invoices)).filter (· < id)

/-- No invoice of another network has its turn: one that is neither swept nor closed, and after
the cursor, has a whole batch of watched invoices before it. -/
def NoForeignTurn (settings : Settings) (w : Watch) : Prop :=
  ∀ id doc, w.invoices.lookup id = some doc → doc.network ≠ settings.dashNetwork →
    doc.sweptAt = none → doc.state ∈ WATCH_STATES → (∀ last ∈ w.watcher.lastId, last < id) →
      1 ≤ settings.dashWatchBatch ∧ settings.dashWatchBatch ≤ (w.before id).length

/-- What is in a batch is watched, after the cursor, and has few others before it. -/
theorem mem_batchIds {settings : Settings} {w : Watch} {id : ObjectId} :
    id ∈ batchIds w.invoices settings.dashWatchBatch w.watcher.lastId ↔
      (id ∈ watchSet w.invoices ∧ ∀ last ∈ w.watcher.lastId, last < id) ∧
        (1 ≤ settings.dashWatchBatch → (w.before id).length < settings.dashWatchBatch) := by
  have hsorted : (keysAfter w.watcher.lastId (watchSet w.invoices)).Pairwise (· < ·) :=
    (watchSet_sorted w.invoices).sublist List.filter_sublist
  rcases Nat.eq_zero_or_pos settings.dashWatchBatch with hzero | hpos
  · have hall : batchIds w.invoices settings.dashWatchBatch w.watcher.lastId
        = keysAfter w.watcher.lastId (watchSet w.invoices) := by
      unfold batchIds loadBatch
      dsimp only
      rw [if_pos hzero, query_after]
    rw [hall, mem_keysAfter, hzero]
    exact (and_iff_left (fun h => absurd h (by decide))).symm
  · rw [batchIds_eq hpos, mem_take_sorted hsorted, mem_keysAfter]
    exact and_congr_right (fun _ => ⟨fun hfew _ => hfew, fun hfew => hfew hpos⟩)

/-- No invoice of another network has its turn if and only if none is loaded. -/
theorem noForeignTurn_iff {settings : Settings} {w : Watch} : NoForeignTurn settings w ↔
    ∀ e ∈ loadBatch w.invoices settings.dashWatchBatch w.watcher.lastId,
      e.2.network = settings.dashNetwork := by
  constructor
  · rintro h ⟨id, doc⟩ he
    by_contra hforeign
    obtain ⟨hdoc, hswept, hstate⟩ := mem_loadBatch he
    obtain ⟨⟨-, hafter⟩, hfew⟩ := mem_batchIds.mp (List.mem_map_of_mem he)
    obtain ⟨hpos, hmany⟩ := h id doc hdoc hforeign hswept hstate hafter
    exact absurd hmany (not_le.mpr (hfew hpos))
  · intro h id doc hdoc hforeign hswept hstate hafter
    by_contra hnot
    have hfew : 1 ≤ settings.dashWatchBatch →
        (w.before id).length < settings.dashWatchBatch :=
      fun hpos => not_le.mp (fun hmany => hnot ⟨hpos, hmany⟩)
    have hwatched : id ∈ watchSet w.invoices := mem_watchSet.mpr ⟨doc, hdoc, hswept, hstate⟩
    obtain ⟨⟨id', doc'⟩, he, rfl⟩ := List.mem_map.mp (mem_batchIds.mpr ⟨⟨hwatched, hafter⟩, hfew⟩)
    have hsame := (mem_loadBatch he).1
    rw [hdoc] at hsame
    obtain rfl := Option.some.inj hsame
    exact hforeign (h _ he)

/-! ## The tick -/

/-- A tick reads and writes invoices of its own network only, and stores for them what it would
store if there were no others. -/
structure OwnNetworkOnly (settings : Settings) (input : TickInput) (w : Watch) : Prop where
  reads : input.findError = none →
    ∀ e ∈ loadBatch w.invoices settings.dashWatchBatch w.watcher.lastId,
      e.2.network = settings.dashNetwork
  writes : ∀ id doc, w.invoices.lookup id = some doc → doc.network ≠ settings.dashNetwork →
    (tick settings input w).1.invoices.lookup id = some doc
  same : ∀ own, OwnPart settings.dashNetwork w own →
    OwnPart settings.dashNetwork (tick settings input w).1 (tick settings input own).1

theorem tick_lookup_of_notMem {settings : Settings} {input : TickInput} {w : Watch}
    {id : ObjectId}
    (h : ∀ e ∈ loadBatch w.invoices settings.dashWatchBatch w.watcher.lastId, e.1 ≠ id) :
    (tick settings input w).1.invoices.lookup id = w.invoices.lookup id := by
  let batch := loadBatch w.invoices settings.dashWatchBatch w.watcher.lastId
  unfold tick
  cases hfind : input.findError with
  | some message => rfl
  | none =>
      cases hask : askNode input.node (batchAddresses batch) with
      | error e =>
          dsimp only
          rw [hask]
          cases e <;> rfl
      | ok raw =>
          have hsame := applyBatch_lookup_of_notMem settings input
            (utxosByAddr (batchAddresses batch) raw) h (w.afterLoad settings batch)
          dsimp only
          rw [hask]
          dsimp only
          cases ha : applyBatch settings input (utxosByAddr (batchAddresses batch) raw) batch
              (w.afterLoad settings batch) with
          | mk w' result =>
              rw [ha] at hsame
              cases result <;> exact hsame

/-- A tick leaves an invoice of another network alone when its batch holds none. -/
theorem tick_lookup_foreign {settings : Settings} {input : TickInput} {w : Watch}
    (hown : input.findError = none →
      ∀ e ∈ loadBatch w.invoices settings.dashWatchBatch w.watcher.lastId,
        e.2.network = settings.dashNetwork)
    {id : ObjectId} {doc : InvoiceDoc} (hdoc : w.invoices.lookup id = some doc)
    (hforeign : doc.network ≠ settings.dashNetwork) :
    (tick settings input w).1.invoices.lookup id = some doc := by
  cases hfind : input.findError with
  | some message =>
      unfold tick
      rw [hfind]
      exact hdoc
  | none =>
      rw [tick_lookup_of_notMem, hdoc]
      rintro ⟨id', inv⟩ he rfl
      have hinv := (mem_loadBatch he).1
      rw [hdoc] at hinv
      obtain rfl := Option.some.inj hinv
      exact hforeign (hown hfind _ he)

/-- With such a batch, the tick goes the same way without the other networks. -/
theorem OwnPart.tick {settings : Settings} {input : TickInput} {w own : Watch}
    (h : OwnPart settings.dashNetwork w own)
    (hown : input.findError = none →
      ∀ e ∈ loadBatch w.invoices settings.dashWatchBatch w.watcher.lastId,
        e.2.network = settings.dashNetwork) :
    OwnPart settings.dashNetwork (tick settings input w).1 (tick settings input own).1 := by
  cases hfind : input.findError with
  | some message =>
      unfold V4vappDash.tick
      rw [hfind]
      exact h
  | none =>
      have hbatch := loadBatch_ownPart h.invoices (hown hfind)
      obtain ⟨hinvoices, hwatcher⟩ := h
      generalize hb : loadBatch w.invoices settings.dashWatchBatch w.watcher.lastId = batch
        at hbatch
      have hload : OwnPart settings.dashNetwork (w.afterLoad settings batch)
          (own.afterLoad settings batch) :=
        ⟨hinvoices, by unfold Watch.afterLoad; rw [hwatcher]⟩
      -- both ticks ask for the same addresses, so the node answers both alike
      unfold V4vappDash.tick
      simp only [hfind, hwatcher, hb, hbatch]
      cases hask : askNode input.node (batchAddresses batch) with
      | error e =>
          cases e with
          | dashdError message => exact ⟨hload.invoices, by rw [hload.watcher]⟩
          | other message => exact hload
      | ok raw =>
          obtain ⟨hresult, happly⟩ := hload.applyBatch settings input
            (utxosByAddr (batchAddresses batch) raw) batch
          dsimp only
          cases hw : V4vappDash.applyBatch settings input
              (utxosByAddr (batchAddresses batch) raw) batch (w.afterLoad settings batch) with
          | mk w' result =>
              cases ho : V4vappDash.applyBatch settings input
                  (utxosByAddr (batchAddresses batch) raw) batch
                  (own.afterLoad settings batch) with
              | mk own' result' =>
                  rw [hw, ho] at hresult happly
                  have hresult : result' = result := hresult
                  subst hresult
                  cases result' with
                  | error e => exact happly
                  | ok u =>
                      refine ⟨happly.invoices, ?_⟩
                      have hsame : own'.watcher = w'.watcher := happly.watcher
                      dsimp only
                      rw [hsame]

/-- **A tick and the other networks.** A tick keeps to the invoices of its own network, and
stores for them what it would store without the others, if and only if no invoice of another
network has its turn (or the query raises): whichever is watched and after the cursor has
`dash_watch_batch` watched invoices between the cursor and itself. -/
theorem tick_own_network (settings : Settings) (input : TickInput) (w : Watch) :
    OwnNetworkOnly settings input w ↔ (input.findError = none → NoForeignTurn settings w) := by
  rw [noForeignTurn_iff]
  constructor
  · intro h
    exact h.reads
  · intro hown
    refine ⟨hown, ?_, ?_⟩
    · intro id doc hdoc hforeign
      exact tick_lookup_foreign hown hdoc hforeign
    · intro own hpart
      exact hpart.tick hown

/-! ## An invoice of another network -/

/-- An invoice of the main network in the collection of `sampleInvoice`. -/
def foreignInvoice : InvoiceDoc :=
  { sampleInvoice with externalId := "order-2", network := .mainnet, address := "XAddr" }

/-- A regtest node: it rejects a `listunspent` call with an address it does not know. -/
def regtestNode : Node where
  listunspent := fun addresses =>
    if addresses.all (· = "yAddr") then .ok [sampleUtxo]
    else .error (.dashdError "Invalid Dash address: XAddr")
  gettransaction := fun _ => .ok { confirmations := some 6 }

def regtestInput : TickInput := { node := regtestNode, now := 1000000 }

def ownWatch : Watch := ⟨AList.singleton 1 sampleInvoice, {}⟩

def mixedWatch : Watch := ⟨AList.insert 2 foreignInvoice (AList.singleton 1 sampleInvoice), {}⟩

theorem ownPart_mixedWatch : OwnPart .regtest mixedWatch ownWatch := by
  refine ⟨?_, rfl⟩
  intro id
  by_cases h₂ : id = 2
  · subst h₂
    rfl
  · have hmixed : mixedWatch.invoices.lookup id = ownWatch.invoices.lookup id :=
      AList.lookup_insert_ne h₂
    rw [hmixed]
    cases hdoc : ownWatch.invoices.lookup id with
    | none => rfl
    | some doc =>
        have hmem := Collection.mem_docs.mpr hdoc
        obtain ⟨-, rfl⟩ := Prod.ext_iff.mp (List.mem_singleton.mp hmem)
        rfl

/-- With an invoice of another network in the batch, a paid invoice of the own network stays
open; without it, the same tick settles it. -/
theorem foreign_invoice_blocks_tick : ¬ OwnNetworkOnly {} regtestInput mixedWatch := by
  intro h
  let d := settle sampleInvoice [sampleOutput] 1000000
  -- the node rejects the foreign address, and with it the whole call
  have hmixed : (tick {} regtestInput mixedWatch).1.invoices.lookup 1 = some sampleInvoice := rfl
  have hbatch : loadBatch ownWatch.invoices 500 none = [] ++ (1, sampleInvoice) :: [] := rfl
  have hraw : askNode regtestNode (batchAddresses ([] ++ (1, sampleInvoice) :: []))
      = .ok [sampleUtxo] := rfl
  have hd : decideInvoice {} regtestNode sampleInvoice [sampleUtxo] 1000000 = .ok d := by
    have hfresh : freshOutputs {} regtestNode 1000000 [sampleUtxo] = .ok [sampleOutput] :=
      freshOutputs_single 200000 (Utxo.duffs_eq rfl (by decide)) (by decide) rfl
    exact decideInvoice_fresh _ hfresh
  have hints : d.ints.all bsonInt64 = true := by decide
  -- alone, the own invoice is settled
  have hown : (tick {} regtestInput ownWatch).1.invoices.lookup 1
      = some (persistDoc .OPEN d 1000000 sampleInvoice) :=
    tick_lookup rfl hbatch hraw rfl hd hints rfl
  have hsame := (h.same ownWatch ownPart_mixedWatch).invoices 1
  rw [hmixed, hown] at hsame
  have hstate := congrArg (Option.map InvoiceDoc.state) hsame
  exact absurd hstate (by decide)

end V4vappDash
