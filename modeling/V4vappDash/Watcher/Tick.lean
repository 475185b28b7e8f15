import V4vappDash.Watcher.Steps

set_option autoImplicit false

/-! # What a tick does to one invoice of its batch

A tick handles the invoices of its batch one after another. Handling one leaves the documents
of the others alone (`applyBatch_lookup_of_notMem`), so what a tick stores for an invoice it
reaches is the conditional update by its own decision: `tick_lookup`.
-/

namespace V4vappDash

section Batch

variable (settings : Settings) (input : TickInput) (utxosFor : String → List Utxo)

theorem applyInvoice_lookup_of_ne {id j : ObjectId} (hne : j ≠ id) (inv : InvoiceDoc)
    (utxos : List Utxo) (w : Watch) :
    (applyInvoice settings input id inv utxos w).1.invoices.lookup j = w.invoices.lookup j := by
  rcases applyInvoice_invoices settings input id inv utxos w with heq | ⟨d, -, heq⟩
  · rw [heq]
  · rw [heq, Collection.lookup_updateIf_of_ne hne]

theorem applyBatch_cons (id : ObjectId) (inv : InvoiceDoc) (rest : List (ObjectId × InvoiceDoc))
    (w : Watch) :
    applyBatch settings input utxosFor ((id, inv) :: rest) w =
      match applyInvoice settings input id inv (utxosFor inv.address) w with
      | (w', .ok ()) => applyBatch settings input utxosFor rest w'
      | (w', .error e) => (w', .error e) := rfl

theorem applyBatch_lookup_of_notMem {batch : List (ObjectId × InvoiceDoc)} {j : ObjectId}
    (h : ∀ e ∈ batch, e.1 ≠ j) (w : Watch) :
    (applyBatch settings input utxosFor batch w).1.invoices.lookup j = w.invoices.lookup j := by
  induction batch generalizing w with
  | nil => rfl
  | cons e rest ih =>
      obtain ⟨id, inv⟩ := e
      have hne : j ≠ id := (h (id, inv) List.mem_cons_self).symm
      have hone := applyInvoice_lookup_of_ne settings input hne inv (utxosFor inv.address) w
      rw [applyBatch_cons]
      cases ha : applyInvoice settings input id inv (utxosFor inv.address) w with
      | mk w' result =>
          rw [ha] at hone
          cases result with
          -- an exception leaves the rest of the batch alone
          | error e => exact hone
          | ok u =>
              calc (applyBatch settings input utxosFor rest w').1.invoices.lookup j
                  = w'.invoices.lookup j := ih (fun e he => h e (List.mem_cons_of_mem _ he)) w'
                _ = w.invoices.lookup j := hone

variable {settings input utxosFor}

/-- A batch is handled from the front, as far as nothing raises. -/
theorem applyBatch_append {before : List (ObjectId × InvoiceDoc)} {w : Watch}
    (h : (applyBatch settings input utxosFor before w).2 = .ok ())
    (after : List (ObjectId × InvoiceDoc)) :
    applyBatch settings input utxosFor (before ++ after) w
      = applyBatch settings input utxosFor after
        (applyBatch settings input utxosFor before w).1 := by
  induction before generalizing w with
  | nil => rfl
  | cons e rest ih =>
      obtain ⟨id, inv⟩ := e
      rw [List.cons_append, applyBatch_cons, applyBatch_cons]
      rw [applyBatch_cons] at h
      cases ha : applyInvoice settings input id inv (utxosFor inv.address) w with
      | mk w' result =>
          rw [ha] at h
          cases result with
          | error e => cases h
          | ok u => exact ih h

/-- Handling one invoice stores its decision. -/
theorem applyInvoice_lookup {id : ObjectId} {inv : InvoiceDoc} {utxos : List Utxo} {w : Watch}
    {d : Decision} (hd : decideInvoice settings input.node inv utxos input.now = .ok d)
    (hints : d.ints.all bsonInt64 = true) (hupdate : input.updateError id = none) :
    (applyInvoice settings input id inv utxos w).1.invoices.lookup id
      = (w.invoices.lookup id).map (persistDoc inv.state d input.now) := by
  unfold applyInvoice persist
  rw [hd]
  simp only [hupdate, hints, if_true, Watch.countStuck_invoices]
  exact Collection.lookup_updateIf_self ..

/-- What a tick that reaches an invoice stores for it. -/
theorem applyBatch_lookup {before after : List (ObjectId × InvoiceDoc)} {id : ObjectId}
    {inv : InvoiceDoc} {w : Watch} {d : Decision}
    (hdistinct : (before ++ (id, inv) :: after).Pairwise (fun a b => a.1 ≠ b.1))
    (hbefore : (applyBatch settings input utxosFor before w).2 = .ok ())
    (hd : decideInvoice settings input.node inv (utxosFor inv.address) input.now = .ok d)
    (hints : d.ints.all bsonInt64 = true) (hupdate : input.updateError id = none) :
    (applyBatch settings input utxosFor (before ++ (id, inv) :: after) w).1.invoices.lookup id
      = (w.invoices.lookup id).map (persistDoc inv.state d input.now) := by
  obtain ⟨-, hcons, hcross⟩ := List.pairwise_append.mp hdistinct
  have hafter : ∀ e ∈ after, e.1 ≠ id := fun e he => ((List.pairwise_cons.mp hcons).1 e he).symm
  have hnotBefore : ∀ e ∈ before, e.1 ≠ id := fun e he => hcross e he _ List.mem_cons_self
  -- nothing before `id` in the batch touches its document, and nothing after it does
  have hsame := applyBatch_lookup_of_notMem settings input utxosFor hnotBefore w
  have hone := applyInvoice_lookup (w := (applyBatch settings input utxosFor before w).1) hd hints
    hupdate
  rw [hsame] at hone
  rw [applyBatch_append hbefore, applyBatch_cons]
  cases ha : applyInvoice settings input id inv (utxosFor inv.address)
      (applyBatch settings input utxosFor before w).1 with
  | mk w' result =>
      rw [ha] at hone
      cases result with
      | error e => exact hone
      | ok u => exact (applyBatch_lookup_of_notMem settings input utxosFor hafter w').trans hone

end Batch

/-- The batch of a tick, in key order. -/
theorem loadBatch_sorted (invoices : Invoices) (limit : Nat) (after : Option ObjectId) :
    (loadBatch invoices limit after).Pairwise (fun a b => a.1 < b.1) := by
  have hsub : (loadBatch invoices limit after).Sublist
      (Collection.query invoices (watchQuery after)) := by
    unfold loadBatch
    dsimp only
    split_ifs
    · exact List.Sublist.refl _
    · exact List.take_sublist _ _
  exact (Collection.query_sorted invoices (watchQuery after)).sublist hsub

theorem loadBatch_pairwise (invoices : Invoices) (limit : Nat) (after : Option ObjectId) :
    (loadBatch invoices limit after).Pairwise (fun a b => a.1 ≠ b.1) :=
  (loadBatch_sorted invoices limit after).imp (fun h => ne_of_lt h)

/-- The documents of a batch are stored, unswept and in a watched state. -/
theorem mem_loadBatch {invoices : Invoices} {limit : Nat} {after : Option ObjectId}
    {id : ObjectId} {inv : InvoiceDoc} (h : (id, inv) ∈ loadBatch invoices limit after) :
    invoices.lookup id = some inv ∧ inv.sweptAt = none ∧ inv.state ∈ WATCH_STATES := by
  have hmem : (id, inv) ∈ Collection.query invoices (watchQuery after) := by
    unfold loadBatch at h
    dsimp only at h
    split_ifs at h
    · exact h
    · exact List.mem_of_mem_take h
  obtain ⟨hdoc, hquery⟩ := Collection.mem_query.mp hmem
  simp only [watchQuery, Bool.and_eq_true, Option.isNone_iff_eq_none, decide_eq_true_eq] at hquery
  exact ⟨hdoc, hquery.1.1, hquery.1.2⟩

/-- **What a tick stores.** For an invoice of its batch that it reaches, a tick whose node has
answered issues the conditional update by the decision on the document it read. -/
theorem tick_lookup {settings : Settings} {input : TickInput} {w : Watch}
    {before after : List (ObjectId × InvoiceDoc)} {id : ObjectId} {inv : InvoiceDoc}
    {raw : List Utxo} {d : Decision} (hfind : input.findError = none)
    (hbatch : loadBatch w.invoices settings.dashWatchBatch w.watcher.lastId
      = before ++ (id, inv) :: after)
    (hraw : askNode input.node (batchAddresses (before ++ (id, inv) :: after)) = .ok raw)
    (hbefore : (applyBatch settings input
      (utxosByAddr (batchAddresses (before ++ (id, inv) :: after)) raw) before
      (w.afterLoad settings (before ++ (id, inv) :: after))).2 = .ok ())
    (hd : decideInvoice settings input.node inv
      (utxosByAddr (batchAddresses (before ++ (id, inv) :: after)) raw inv.address) input.now
      = .ok d)
    (hints : d.ints.all bsonInt64 = true) (hupdate : input.updateError id = none) :
    (tick settings input w).1.invoices.lookup id
      = some (persistDoc inv.state d input.now inv) := by
  have hdistinct := loadBatch_pairwise w.invoices settings.dashWatchBatch w.watcher.lastId
  have hmem : (id, inv) ∈ loadBatch w.invoices settings.dashWatchBatch w.watcher.lastId := by
    rw [hbatch]
    exact List.mem_append_right _ List.mem_cons_self
  rw [hbatch] at hdistinct
  have hstored := applyBatch_lookup (w := w.afterLoad settings (before ++ (id, inv) :: after))
    hdistinct hbefore hd hints hupdate
  rw [show (w.afterLoad settings (before ++ (id, inv) :: after)).invoices = w.invoices from rfl,
    (mem_loadBatch hmem).1] at hstored
  unfold tick
  simp only [hfind, hbatch, hraw]
  cases ha : applyBatch settings input
      (utxosByAddr (batchAddresses (before ++ (id, inv) :: after)) raw)
      (before ++ (id, inv) :: after) (w.afterLoad settings (before ++ (id, inv) :: after)) with
  | mk w' result =>
      rw [ha] at hstored
      cases result with
      | error e => exact hstored
      | ok u => exact hstored

theorem runWatcherOnce_invoices (settings : Settings) (input : TickInput) (w : Watch) :
    (runWatcherOnce settings input w).invoices = (tick settings input w).1.invoices := by
  unfold runWatcherOnce
  cases tick settings input w with
  | mk w' result => cases result <;> rfl

end V4vappDash
