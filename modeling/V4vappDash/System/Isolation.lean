import V4vappDash.Lib.Batch
import V4vappDash.System.Race
import V4vappDash.Watcher.Tick

set_option autoImplicit false

/-! # One failing invoice and the rest of its batch

`tick` calls `_apply_invoice` for one invoice of the batch after another. Only the `DashdError`
of a `gettransaction` call is caught there; a transport error or an HTTP status error of the RPC
client, a document that cannot be read or an update that raises ends the loop.

`isolated_iff` says exactly when what a tick stores for an invoice `b` does not depend on whether
processing another invoice `a` of the batch succeeds.
-/

namespace V4vappDash

open Batch

/-! ## The calls of a tick -/

/-- The arguments of one call of `_apply_invoice`. -/
structure Call where
  id : ObjectId
  inv : InvoiceDoc
  utxos : List Utxo

/-- The calls a tick makes unless one of them raises. There is none when the query or
`listunspent` fails. -/
def watchCalls (settings : Settings) (input : TickInput) (w : Watch) : List Call :=
  match input.findError with
  | some _ => []
  | none =>
      let batch := loadBatch w.invoices settings.dashWatchBatch w.watcher.lastId
      match askNode input.node (batchAddresses batch) with
      | .error _ => []
      | .ok raw =>
          batch.map (fun e => ⟨e.1, e.2, utxosByAddr (batchAddresses batch) raw e.2.address⟩)

def applyCall (settings : Settings) (input : TickInput) (c : Call) (w : Watch) :
    Watch × Except Exn Unit :=
  applyInvoice settings input c.id c.inv c.utxos w

/-- The watch at the start of the loop of a tick. -/
def Watch.loaded (settings : Settings) (w : Watch) : Watch :=
  w.afterLoad settings (loadBatch w.invoices settings.dashWatchBatch w.watcher.lastId)

/-- The document stored under `id`. -/
def storedDoc (id : ObjectId) (w : Watch) : Option InvoiceDoc := w.invoices.lookup id

/-- What is stored after a tick that handles its invoices by `handle`. -/
def storedAfter (settings : Settings) (input : TickInput) (w : Watch)
    (handle : Call → Watch → Watch × Except Exn Unit) : Watch :=
  (runAll handle (watchCalls settings input w) (w.loaded settings)).1

/-- The call returns: no lookup of an output that is not dust raises anything but `DashdError`,
the integers of the decision fit, and the update does not raise. -/
def Call.Returns (settings : Settings) (input : TickInput) (c : Call) : Prop :=
  ∃ d, decideInvoice settings input.node c.inv c.utxos input.now = .ok d ∧
    d.ints.all bsonInt64 = true ∧ input.updateError c.id = none

/-- The call has nothing to store: it raises, or its update leaves the document as it is. -/
def Call.StoresNothing (settings : Settings) (input : TickInput) (c : Call) : Prop :=
  ∀ d, decideInvoice settings input.node c.inv c.utxos input.now = .ok d →
    d.ints.all bsonInt64 = true → input.updateError c.id = none →
    persistDoc c.inv.state d input.now c.inv = c.inv

/-- A tick in which the processing of `a` ends as it may, whatever the reason, and touches at
most its own document; the other invoices are processed as ever. -/
structure Handles (settings : Settings) (input : TickInput) (w : Watch) (a : Call)
    (handle : Call → Watch → Watch × Except Exn Unit) (succeeds : Prop) : Prop where
  others : ∀ c ∈ watchCalls settings input w, c ≠ a → handle c = applyCall settings input c
  own : Local handle Call.id storedDoc a succeeds

/-- What a tick stores for `b` is the same whether processing `a` succeeds or fails. -/
def Isolated (settings : Settings) (input : TickInput) (w : Watch) (a b : Call) : Prop :=
  ∀ handle handle', Handles settings input w a handle True →
    Handles settings input w a handle' False →
    storedDoc b.id (storedAfter settings input w handle')
      = storedDoc b.id (storedAfter settings input w handle)

section Calls

variable {settings : Settings} {input : TickInput} {w : Watch}

/-- The loop of a tick is the batch of its calls. -/
theorem applyBatch_eq_runAll (utxosFor : String → List Utxo)
    (batch : List (ObjectId × InvoiceDoc)) (w : Watch) :
    applyBatch settings input utxosFor batch w
      = runAll (applyCall settings input)
          (batch.map (fun e => ⟨e.1, e.2, utxosFor e.2.address⟩)) w := by
  induction batch generalizing w with
  | nil => rfl
  | cons e rest ih =>
      obtain ⟨id, inv⟩ := e
      rw [applyBatch_cons, List.map_cons, runAll_cons]
      simp only [applyCall]
      cases applyInvoice settings input id inv (utxosFor inv.address) w with
      | mk w' result =>
          cases result with
          | error e => rfl
          | ok u => exact ih w'

/-- What a tick stores is what the batch of its calls stores. -/
theorem tick_storedDoc (settings : Settings) (input : TickInput) (w : Watch) (id : ObjectId) :
    storedDoc id (tick settings input w).1
      = storedDoc id (storedAfter settings input w (applyCall settings input)) := by
  unfold tick storedAfter watchCalls Watch.loaded
  cases input.findError with
  | some message => rfl
  | none =>
      dsimp only
      cases askNode input.node (batchAddresses
          (loadBatch w.invoices settings.dashWatchBatch w.watcher.lastId)) with
      | error e => cases e <;> rfl
      | ok raw =>
          dsimp only
          rw [← applyBatch_eq_runAll]
          cases applyBatch settings input _ _ _ with
          | mk w' result => cases result <;> rfl

theorem mem_watchCalls {c : Call} (h : c ∈ watchCalls settings input w) :
    (c.id, c.inv) ∈ loadBatch w.invoices settings.dashWatchBatch w.watcher.lastId := by
  unfold watchCalls at h
  cases hfind : input.findError with
  | some message => simp [hfind] at h
  | none =>
      simp only [hfind] at h
      cases hask : askNode input.node (batchAddresses
          (loadBatch w.invoices settings.dashWatchBatch w.watcher.lastId)) with
      | error e => simp [hask] at h
      | ok raw =>
          simp only [hask, List.mem_map] at h
          obtain ⟨e, he, rfl⟩ := h
          exact he

/-- The calls are made in the order of the ids. -/
theorem watchCalls_pairwise (settings : Settings) (input : TickInput) (w : Watch) :
    (watchCalls settings input w).Pairwise (fun a b => a.id < b.id) := by
  unfold watchCalls
  cases input.findError with
  | some message => exact List.Pairwise.nil
  | none =>
      dsimp only
      cases askNode input.node (batchAddresses
          (loadBatch w.invoices settings.dashWatchBatch w.watcher.lastId)) with
      | error e => exact List.Pairwise.nil
      | ok raw => exact List.pairwise_map.mpr (loadBatch_sorted ..)

/-- Processing an invoice touches its own document only, and raises unless it returns. -/
theorem local_applyCall (settings : Settings) (input : TickInput) (c : Call) :
    Local (applyCall settings input) Call.id storedDoc c (c.Returns settings input) where
  frame := fun s k hk => applyInvoice_lookup_of_ne settings input hk c.inv c.utxos s
  result := by
    intro s
    unfold applyCall applyInvoice persist Call.Returns
    cases decideInvoice settings input.node c.inv c.utxos input.now with
    | error e => simp
    | ok d =>
        cases input.updateError c.id with
        | some message => simp
        | none =>
            by_cases hints : d.ints.all bsonInt64 = true
            · simp only [if_pos hints, true_iff]
              exact ⟨d, rfl, hints, trivial⟩
            · simp only [if_neg hints, reduceCtorEq, false_iff]
              rintro ⟨_, heq, hall, -⟩
              rw [← Except.ok.inj heq] at hall
              exact hints hall

/-- What processing an invoice does to its document. -/
def Call.effect (settings : Settings) (input : TickInput) (c : Call) (doc : Option InvoiceDoc) :
    Option InvoiceDoc :=
  match decideInvoice settings input.node c.inv c.utxos input.now with
  | .error _ => doc
  | .ok d =>
      if d.ints.all bsonInt64 = true ∧ input.updateError c.id = none then
        doc.map (persistDoc c.inv.state d input.now)
      else doc

theorem applyCall_effect (settings : Settings) (input : TickInput) (c : Call) (s : Watch) :
    storedDoc c.id (applyCall settings input c s).1
      = c.effect settings input (storedDoc c.id s) := by
  unfold Call.effect
  cases hd : decideInvoice settings input.node c.inv c.utxos input.now with
  | error e =>
      unfold applyCall applyInvoice
      rw [hd]
  | ok d =>
      dsimp only
      by_cases h : d.ints.all bsonInt64 = true ∧ input.updateError c.id = none
      · rw [if_pos h]
        exact applyInvoice_lookup hd h.1 h.2
      · rw [if_neg h]
        unfold applyCall applyInvoice persist
        rw [hd]
        dsimp only
        cases hu : input.updateError c.id with
        | some message =>
            exact congrArg (fun i => AList.lookup c.id i) (Watch.countStuck_invoices d s)
        | none =>
            have hints : ¬ d.ints.all bsonInt64 = true := fun hi => h ⟨hi, hu⟩
            rw [if_neg hints]
            exact congrArg (fun i => AList.lookup c.id i) (Watch.countStuck_invoices d s)

theorem effect_eq_self_iff (c : Call) :
    c.effect settings input (some c.inv) = some c.inv ↔ c.StoresNothing settings input := by
  unfold Call.effect Call.StoresNothing
  cases decideInvoice settings input.node c.inv c.utxos input.now with
  | error e => simp
  | ok d =>
      by_cases h : d.ints.all bsonInt64 = true ∧ input.updateError c.id = none
      · simp only [if_pos h, Option.map_some, Option.some.injEq]
        constructor
        · rintro hsame _ heq - -
          rw [← Except.ok.inj heq]
          exact hsame
        · intro hall
          exact hall d rfl h.1 h.2
      · simp only [if_neg h, true_iff]
        intro _ heq hints hu
        rw [← Except.ok.inj heq] at hints
        exact absurd ⟨hints, hu⟩ h

/-- The fresh outputs depend on the lookups of the reported outputs only. -/
theorem freshOutputs_congr {node node' : Node} {now : Datetime} {utxos : List Utxo}
    (h : ∀ utxo ∈ utxos, node'.gettransaction utxo = node.gettransaction utxo) :
    freshOutputs settings node' now utxos = freshOutputs settings node now utxos := by
  induction utxos with
  | nil => rfl
  | cons utxo rest ih =>
      have hone : enrich node' utxo utxo.duffs now
          = enrich node utxo utxo.duffs now := by
        unfold enrich
        rw [h utxo List.mem_cons_self]
      rw [freshOutputs, freshOutputs, hone, ih (fun u hu => h u (List.mem_cons_of_mem _ hu))]

/-- The tick of another input is a tick in which `a` is processed differently, when the two
inputs agree about everything else. -/
theorem handles_of_input {input' : TickInput} {a : Call} {succeeds : Prop}
    (hnow : input'.now = input.now)
    (hlookup : ∀ c ∈ watchCalls settings input w, c ≠ a → ∀ utxo ∈ c.utxos,
      input'.node.gettransaction utxo = input.node.gettransaction utxo)
    (hupdate : input'.updateError = input.updateError)
    (ha : a.Returns settings input' ↔ succeeds) :
    Handles settings input w a (applyCall settings input') succeeds where
  others := by
    intro c hc hca
    funext s
    unfold applyCall applyInvoice decideInvoice
    rw [hnow, hupdate, freshOutputs_congr (hlookup c hc hca)]
  own := ⟨(local_applyCall settings input' a).frame,
    fun s => ((local_applyCall settings input' a).result s).trans ha⟩

/-- What a tick stores for the invoice of a call: the effect of the call, when everything before
it returns, and nothing otherwise. -/
theorem tick_call {before after : List Call} {b : Call}
    (hcalls : watchCalls settings input w = before ++ b :: after) :
    ((∀ c ∈ before, c.Returns settings input) →
      storedDoc b.id (tick settings input w).1 = b.effect settings input (some b.inv)) ∧
    ((∃ c ∈ before, ¬ c.Returns settings input) →
      storedDoc b.id (tick settings input w).1 = some b.inv) := by
  have hkeys := (watchCalls_pairwise settings input w).imp (fun h => ne_of_lt h)
  have hb : b ∈ watchCalls settings input w :=
    hcalls ▸ List.mem_append_right _ List.mem_cons_self
  have hstored : storedDoc b.id (w.loaded settings) = some b.inv :=
    (mem_loadBatch (mem_watchCalls hb)).1
  rw [hcalls] at hkeys
  have hcell := runAll_cell (fun c _ => local_applyCall settings input c)
    (applyCall_effect settings input b) hkeys
    (w.loaded settings)
  rw [hstored] at hcell
  rw [tick_storedDoc]
  unfold storedAfter
  rw [hcalls]
  exact hcell

/-- Two calls of one tick for the same id are the same call. -/
theorem eq_of_watchCalls {a b : Call} (ha : a ∈ watchCalls settings input w)
    (hb : b ∈ watchCalls settings input w) (h : a.id = b.id) : a = b := by
  have hnodup : ((watchCalls settings input w).map Call.id).Nodup :=
    List.pairwise_map.mpr ((watchCalls_pairwise settings input w).imp (fun hlt => ne_of_lt hlt))
  exact List.inj_on_of_nodup_map hnodup ha hb h

/-- The calls before that of `b` are those with a smaller id. -/
theorem mem_before_iff {before after : List Call} {b c : Call}
    (hcalls : watchCalls settings input w = before ++ b :: after) :
    c ∈ before ↔ c ∈ watchCalls settings input w ∧ c.id < b.id := by
  have hsorted := watchCalls_pairwise settings input w
  rw [hcalls] at hsorted ⊢
  obtain ⟨-, hafter, hcross⟩ := List.pairwise_append.mp hsorted
  constructor
  · intro hc
    exact ⟨List.mem_append_left _ hc, hcross c hc b List.mem_cons_self⟩
  · rintro ⟨hc, hcb⟩
    rcases List.mem_append.mp hc with h | h
    · exact h
    · rcases List.mem_cons.mp h with rfl | h
      · exact absurd hcb (lt_irrefl _)
      · exact absurd ((List.pairwise_cons.mp hafter).1 c h) (lt_asymm hcb)

/-- The batches of two handlers, at the document of `b`. -/
theorem storedAfter_same_iff {handle handle' : Call → Watch → Watch × Except Exn Unit}
    {before after : List Call} {a b : Call}
    (hcalls : watchCalls settings input w = before ++ b :: after) (hne : b ≠ a)
    (h : Handles settings input w a handle True)
    (h' : Handles settings input w a handle' False) :
    storedDoc b.id (storedAfter settings input w handle')
        = storedDoc b.id (storedAfter settings input w handle) ↔
      a ∉ before ∨ (∃ c ∈ before, c ≠ a ∧ ¬ c.Returns settings input) ∨
        b.StoresNothing settings input := by
  have hb : b ∈ watchCalls settings input w :=
    hcalls ▸ List.mem_append_right _ List.mem_cons_self
  have hstored : storedDoc b.id (w.loaded settings) = some b.inv :=
    (mem_loadBatch (mem_watchCalls hb)).1
  have hkeys := (watchCalls_pairwise settings input w).imp (fun hlt => ne_of_lt hlt)
  rw [hcalls] at hkeys
  have hothers : ∀ c ∈ before ++ b :: after, c ≠ a →
      Local handle Call.id storedDoc c (c.Returns settings input) ∧ handle' c = handle c := by
    intro c hc hca
    rw [← hcalls] at hc
    have heq := h.others c hc hca
    have hlocal := local_applyCall settings input c
    exact ⟨⟨fun s => by rw [heq]; exact hlocal.frame s,
      fun s => by rw [heq]; exact hlocal.result s⟩, (h'.others c hc hca).trans heq.symm⟩
  have heffect : ∀ s, storedDoc b.id (handle b s).1
      = b.effect settings input (storedDoc b.id s) := by
    intro s
    rw [h.others b hb hne]
    exact applyCall_effect settings input b s
  unfold storedAfter
  rw [hcalls, runAll_same_iff hne hothers h.own h'.own heffect hkeys, hstored,
    effect_eq_self_iff]

open Classical in
/-- `a` is passed over. -/
theorem handles_skip (settings : Settings) (input : TickInput) (w : Watch) (a : Call) :
    Handles settings input w a
      (fun c s => if c = a then (s, .ok ()) else applyCall settings input c s) True where
  others := fun c _ hca => by simp [hca]
  own := ⟨fun s k _ => by simp, fun s => by simp⟩

open Classical in
/-- Processing `a` raises at once. -/
theorem handles_raise (settings : Settings) (input : TickInput) (w : Watch) (a : Call) :
    Handles settings input w a (fun c s =>
      if c = a then (s, .error (.other "KeyError")) else applyCall settings input c s) False where
  others := fun c _ hca => by simp [hca]
  own := ⟨fun s k _ => by simp, fun s => by simp⟩

end Calls

/-- **When the fate of one invoice matters for another.** Of the invoices of a batch for which the
node has answered `listunspent` (when it has not, the tick processes none of them): what a tick
stores for `b` is the same whether processing `a` succeeds or fails if and only if `b` comes before
`a` (its `_id` is smaller), or another invoice before `b` fails anyway, or the tick has nothing to
store for `b`. -/
theorem isolated_iff {settings : Settings} {input : TickInput} {w : Watch} {a b : Call}
    (ha : a ∈ watchCalls settings input w) (hb : b ∈ watchCalls settings input w) (hne : b ≠ a) :
    Isolated settings input w a b ↔
      b.id < a.id ∨
      (∃ c ∈ watchCalls settings input w, c.id < b.id ∧ c ≠ a ∧ ¬ c.Returns settings input) ∨
      b.StoresNothing settings input := by
  obtain ⟨before, after, hcalls⟩ := List.append_of_mem hb
  have hposition : a ∉ before ↔ b.id < a.id := by
    rw [mem_before_iff hcalls]
    constructor
    · intro hnot
      by_contra hle
      rcases lt_or_eq_of_le (not_lt.mp hle) with h | h
      · exact hnot ⟨ha, h⟩
      · exact hne (eq_of_watchCalls hb ha h.symm)
    · rintro h ⟨-, hab⟩
      exact absurd hab (lt_asymm h)
  have hother : (∃ c ∈ before, c ≠ a ∧ ¬ c.Returns settings input) ↔
      ∃ c ∈ watchCalls settings input w, c.id < b.id ∧ c ≠ a ∧ ¬ c.Returns settings input := by
    constructor
    · rintro ⟨c, hc, h⟩
      obtain ⟨hcalled, hcb⟩ := (mem_before_iff hcalls).mp hc
      exact ⟨c, hcalled, hcb, h⟩
    · rintro ⟨c, hc, hcb, h⟩
      exact ⟨c, (mem_before_iff hcalls).mpr ⟨hc, hcb⟩, h⟩
  have hskip := handles_skip settings input w a
  have hraise := handles_raise settings input w a
  rw [← hposition, ← hother]
  constructor
  · intro h
    exact (storedAfter_same_iff hcalls hne hskip hraise).mp (h _ _ hskip hraise)
  · intro h handle handle' hh hh'
    exact (storedAfter_same_iff hcalls hne hh hh').mpr h

/-! ## A lookup that times out -/

/-- A second paid invoice. Its `_id` comes first. -/
def blockedInvoice : InvoiceDoc :=
  { sampleInvoice with externalId := "order-0", address := "zAddr" }

def blockedUtxo : Utxo := { sampleUtxo with txid := "tx-0", address := some "zAddr" }

/-- A node that reports both payments. -/
def answeringNode : Node where
  listunspent := fun _ => .ok [blockedUtxo, sampleUtxo]
  gettransaction := fun _ => .ok { confirmations := some 6 }

/-- The same node, when one lookup times out. -/
def timeoutNode : Node where
  listunspent := fun _ => .ok [blockedUtxo, sampleUtxo]
  gettransaction := fun utxo =>
    if utxo.txid = "tx-0" then .error (.other "ReadTimeout")
    else .ok { confirmations := some 6 }

def answeringInput : TickInput := { node := answeringNode, now := 1000000 }

def timeoutInput : TickInput := { node := timeoutNode, now := 1000000 }

def pairWatch : Watch :=
  ⟨AList.insert 2 sampleInvoice (AList.singleton 1 blockedInvoice), {}⟩

def blockedCall : Call := ⟨1, blockedInvoice, [blockedUtxo]⟩

def sampleCall : Call := ⟨2, sampleInvoice, [sampleUtxo]⟩

theorem watchCalls_pairWatch :
    watchCalls {} answeringInput pairWatch = [blockedCall, sampleCall] := rfl

/-- The invoice that is processed first does not depend on the other one. -/
theorem isolated_first : Isolated {} answeringInput pairWatch sampleCall blockedCall := by
  have hcalls := watchCalls_pairWatch
  have hfirst : blockedCall ∈ watchCalls {} answeringInput pairWatch := by
    rw [hcalls]
    exact List.mem_cons_self
  have hsecond : sampleCall ∈ watchCalls {} answeringInput pairWatch := by
    rw [hcalls]
    exact List.mem_cons_of_mem _ (List.mem_singleton_self _)
  have hne : blockedCall ≠ sampleCall := fun h => absurd (congrArg Call.id h) (by decide)
  exact (isolated_iff hsecond hfirst hne).mpr (Or.inl (by decide))

theorem watchCalls_timeout :
    watchCalls {} timeoutInput pairWatch = [blockedCall, sampleCall] := rfl

theorem decide_answering {inv : InvoiceDoc} {utxo : Utxo}
    (hamount : utxo.amount = ((200000 : Int) : Decimal) / 10 ^ 8) :
    decideInvoice {} answeringNode inv [utxo] 1000000
      = .ok (settle inv (mergeOutputs inv.txids
          [{ sampleOutput with txid := utxo.txid, vout := utxo.vout }]) 1000000) :=
  decideInvoice_fresh _
    (freshOutputs_single 200000 (Utxo.duffs_eq hamount (by decide)) (by decide) rfl)

theorem returns_answering : blockedCall.Returns {} answeringInput :=
  ⟨_, decide_answering rfl, by decide, rfl⟩

/-- The exception of the lookup leaves `_apply_invoice`. -/
theorem not_returns_timeout : ¬ blockedCall.Returns {} timeoutInput := by
  rintro ⟨d, hd, -⟩
  have hfresh : freshOutputs {} timeoutNode 1000000 [blockedUtxo]
      = .error (.other "ReadTimeout") := by
    have hduffs : blockedUtxo.duffs = 200000 := Utxo.duffs_eq rfl (by decide)
    rw [freshOutputs, hduffs, if_neg (by decide)]
    rfl
  have herror : decideInvoice {} timeoutNode blockedInvoice [blockedUtxo] 1000000
      = .error (.other "ReadTimeout") := by
    unfold decideInvoice
    rw [hfresh]
  have hnone := herror.symm.trans hd
  cases hnone

/-- The lookup of one paid invoice times out, and the other paid invoice stays open. -/
theorem failed_lookup_blocks_batch :
    (storedDoc 2 (tick {} answeringInput pairWatch).1).map InvoiceDoc.state = some .SETTLED ∧
    (storedDoc 2 (tick {} timeoutInput pairWatch).1).map InvoiceDoc.state = some .OPEN ∧
    ¬ Isolated {} answeringInput pairWatch blockedCall sampleCall := by
  let d := settle sampleInvoice [sampleOutput] 1000000
  have hd : decideInvoice {} answeringNode sampleInvoice [sampleUtxo] 1000000 = .ok d :=
    decide_answering rfl
  have hints : d.ints.all bsonInt64 = true := by decide
  have hall : ∀ c ∈ [blockedCall], c.Returns {} answeringInput := by
    simpa using returns_answering
  have hanswered : storedDoc 2 (tick {} answeringInput pairWatch).1
      = some (persistDoc .OPEN d 1000000 sampleInvoice) := by
    rw [show (2 : ObjectId) = sampleCall.id from rfl, (tick_call watchCalls_pairWatch).1 hall]
    unfold Call.effect
    rw [show decideInvoice {} answeringInput.node sampleCall.inv sampleCall.utxos
      answeringInput.now = .ok d from hd]
    exact if_pos ⟨hints, rfl⟩
  have hblocked : storedDoc 2 (tick {} timeoutInput pairWatch).1 = some sampleInvoice :=
    (tick_call watchCalls_timeout).2 ⟨blockedCall, List.mem_singleton_self _, not_returns_timeout⟩
  refine ⟨by rw [hanswered]; rfl, by rw [hblocked]; rfl, ?_⟩
  intro h
  have hcalls : ∀ c ∈ watchCalls {} answeringInput pairWatch, c ≠ blockedCall →
      ∀ utxo ∈ c.utxos, timeoutNode.gettransaction utxo = answeringNode.gettransaction utxo := by
    rw [watchCalls_pairWatch]
    intro c hc hne utxo hu
    rcases List.mem_pair.mp hc with rfl | rfl
    · exact absurd rfl hne
    · obtain rfl := List.mem_singleton.mp hu
      rfl
  have hsame := h (applyCall {} answeringInput) (applyCall {} timeoutInput)
    (handles_of_input rfl (fun _ _ _ _ _ => rfl) rfl (iff_true_intro returns_answering))
    (handles_of_input rfl hcalls rfl (iff_false_intro not_returns_timeout))
  rw [show storedAfter {} answeringInput pairWatch (applyCall {} timeoutInput)
      = storedAfter {} timeoutInput pairWatch (applyCall {} timeoutInput) from rfl] at hsame
  rw [← tick_storedDoc, ← tick_storedDoc] at hsame
  have hstate := congrArg (Option.map InvoiceDoc.state)
    ((hblocked.symm.trans hsame).trans hanswered)
  exact absurd hstate (by decide)

end V4vappDash
