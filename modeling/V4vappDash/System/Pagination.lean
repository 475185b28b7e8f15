import V4vappDash.Api.List
import V4vappDash.System.Deployment

set_option autoImplicit false

/-! # Reading the listing page by page

A client asks for the first page of a listing and follows the cursors. Between two requests
invoices may be inserted and changed, but none is removed and no `created_at` is changed
(`Retains`, and `retains_run` for what the deployment does). So the keys of the listing follow a
walk over changing sets (`Keyset.Walk`), and the client reads every invoice that it should read,
once: `traversal_exact`.
-/

namespace V4vappDash

open Keyset

/-- Every stored invoice is still stored, with the `created_at` it had. -/
def Retains (invoices invoices' : Invoices) : Prop :=
  ∀ id doc, invoices.lookup id = some doc →
    ∃ doc', invoices'.lookup id = some doc' ∧ doc'.createdAt = doc.createdAt

/-- The `datetime`s that Python can express. -/
def Expressible (invoices : Invoices) : Prop :=
  ∀ id doc, invoices.lookup id = some doc → Iso.InRange doc.createdAt.val

/-- The answers to a client who follows the cursors, each request being answered from the
collection as it is at that moment. -/
def readPages (forms : TextForms) (query : ListQuery) :
    Option String → List Invoices → List (Except ApiError ListPage)
  | _, [] => []
  | cursor, invoices :: rest =>
      let answer := listInvoices forms query cursor (some invoices)
      answer ::
        match answer with
        | .ok ⟨_, some cursor⟩ => readPages forms query (some cursor) rest
        | _ => []

/-- The last page has no cursor. -/
def Ended (pages : List ListPage) : Prop := pages.getLast?.map ListPage.nextCursor = some none

/-- What a client reads: pages, with strictly increasing rows and no invoice twice. If the last
page has no cursor, every invoice is read that was there and met the conditions at every request;
and there is such a page after at most one request more than there are invoices, if none are
inserted. -/
structure ReadsAll (forms : TextForms) (query : ListQuery) (snapshots : List Invoices)
    (pages : List ListPage) : Prop where
  answered : readPages forms query none snapshots = pages.map .ok
  increasing : (pages.flatMap ListPage.items).Pairwise (fun a b => listKey a < listKey b)
  once : ((pages.flatMap ListPage.items).map Prod.fst).Nodup
  complete : Ended pages → ∀ id,
    (∀ invoices ∈ snapshots.take pages.length,
      ∃ doc, invoices.lookup id = some doc ∧ query.wants doc = true) →
    id ∈ (pages.flatMap ListPage.items).map Prod.fst
  ends : ∀ first rest, snapshots = first :: rest →
    (∀ invoices ∈ rest, ∀ id doc, invoices.lookup id = some doc →
      ∃ doc₀, first.lookup id = some doc₀) →
    (Collection.docs first).length < snapshots.length → Ended pages

/-! ## Evolution -/

theorem Retains.refl (invoices : Invoices) : Retains invoices invoices :=
  fun _ doc hdoc => ⟨doc, hdoc, rfl⟩

theorem Retains.trans {invoices invoices' invoices'' : Invoices} (h : Retains invoices invoices')
    (h' : Retains invoices' invoices'') : Retains invoices invoices'' := by
  intro id doc hdoc
  obtain ⟨doc', hdoc', heq⟩ := h id doc hdoc
  obtain ⟨doc'', hdoc'', heq'⟩ := h' id doc' hdoc'
  exact ⟨doc'', hdoc'', heq'.trans heq⟩

instance : IsTrans Invoices Retains := ⟨fun _ _ _ => Retains.trans⟩

theorem retains_act (bip44 : Bip44) (s : Deployment) (a : DeploymentAction) :
    Retains s.service.db.invoices (s.act bip44 a).service.db.invoices := by
  have hmove := s.act_move bip44 a
  generalize (s.act bip44 a).service = s' at hmove ⊢
  cases hmove with
  | serve a =>
      have hmove := s.service.act_move bip44 a
      generalize s.service.act bip44 a = s' at hmove ⊢
      cases hmove with
      | idle | start | post | raise => exact .refl _
      | boot hp hboot =>
          have hsame := hboot.invoices
          dsimp only
          rw [hsame]
          exact .refl _
      | create hr hcreate | lose hr hphase hcreate =>
          exact fun id doc hdoc => ⟨doc, hcreate.lookup hdoc, rfl⟩
  | @update a invoices ha hterms =>
      intro id doc hdoc
      have hid := hterms id
      rw [hdoc] at hid
      obtain ⟨doc', hdoc', hsame⟩ := Option.map_eq_some_iff.mp hid
      have hcreated := congrArg InvoiceDoc.createdAt hsame
      exact ⟨doc', hdoc', hcreated⟩

/-- Whatever the deployment does, it keeps what is stored. -/
theorem retains_run (bip44 : Bip44) (s : Deployment) (actions : List DeploymentAction) :
    Retains s.service.db.invoices
      (Machine.run (Deployment.act bip44) s actions).service.db.invoices :=
  Machine.run_guarantee
    (G := fun s t : Deployment => Retains s.service.db.invoices t.service.db.invoices)
    (fun _ => .refl _) (fun _ _ _ => .trans) (retains_act bip44) s actions

/-- Where each collection keeps what the ones before it hold, an `_id` has one `created_at`. -/
theorem exists_createdAt {snapshots : List Invoices} (h : snapshots.Pairwise Retains) :
    ∃ created : ObjectId → Option Stamp, ∀ invoices ∈ snapshots, ∀ id doc,
      invoices.lookup id = some doc → created id = some doc.createdAt := by
  induction snapshots with
  | nil => exact ⟨fun _ => none, nofun⟩
  | cons invoices rest ih =>
      obtain ⟨hfirst, hrest⟩ := List.pairwise_cons.mp h
      obtain ⟨created, hcreated⟩ := ih hrest
      cases rest with
      | nil =>
          refine ⟨fun id => (invoices.lookup id).map InvoiceDoc.createdAt, ?_⟩
          intro other hother id doc hdoc
          obtain rfl := List.mem_singleton.mp hother
          exact congrArg (Option.map InvoiceDoc.createdAt) hdoc
      | cons next rest =>
          refine ⟨created, ?_⟩
          intro other hother id doc hdoc
          rcases List.mem_cons.mp hother with rfl | hother
          · -- it has the `created_at` that it has in the next collection
            obtain ⟨doc', hdoc', heq⟩ := hfirst next List.mem_cons_self id doc hdoc
            rw [hcreated next List.mem_cons_self id doc' hdoc', heq]
          · exact hcreated other hother id doc hdoc

/-! ## The walk -/

section Walk

variable {forms : TextForms} {query : ListQuery} {snapshots : List Invoices}

theorem ended_cons {page : ListPage} {rest : List ListPage} {cursor : String}
    (h : page.nextCursor = some cursor) : Ended (page :: rest) ↔ Ended rest := by
  unfold Ended
  cases rest with
  | nil =>
      rw [List.getLast?_singleton, Option.map_some, h]
      exact ⟨nofun, nofun⟩
  | cons next rest => rw [List.getLast?_cons_cons]

/-- What holds of the answers from a cursor on. -/
structure WalkFrom (forms : TextForms) (query : ListQuery) (snapshots : List Invoices)
    (cursor : Option (ObjectId × InvoiceDoc)) (pages : List ListPage) (ended : Bool) : Prop where
  answered : readPages forms query (cursor.map (cursorText forms)) snapshots = pages.map .ok
  walk : Walk (cursor.map listKey) (snapshots.map query.listed)
    (pages.map (fun page => page.items.map listKey)) ended
  ended_iff : Ended pages ↔ ended = true
  stored : ∀ e ∈ pages.flatMap ListPage.items, ∃ invoices ∈ snapshots,
    invoices.lookup e.1 = some e.2

theorem readPages_walk (hrange : ∀ invoices ∈ snapshots, Expressible invoices)
    {cursor : Option (ObjectId × InvoiceDoc)}
    (hcursor : ∀ e ∈ cursor, Iso.InRange e.2.createdAt.val) :
    ∃ pages ended, WalkFrom forms query snapshots cursor pages ended := by
  induction snapshots generalizing cursor with
  | nil =>
      refine ⟨[], false, rfl, .stop, ?_, ?_⟩
      · constructor <;> intro h <;> cases h
      · intro e he
        cases he
  | cons invoices rest ih =>
      obtain ⟨items, last, h⟩ := listInvoices_answers forms query invoices hcursor
      have hhere : ∀ e ∈ items, ∃ inv ∈ invoices :: rest, inv.lookup e.1 = some e.2 :=
        fun e he => ⟨invoices, List.mem_cons_self, (h.stored e he).1⟩
      cases last with
      | none =>
          refine ⟨[⟨items, none⟩], true, ?_, .last h.page, ⟨fun _ => rfl, fun _ => rfl⟩, ?_⟩
          · rw [readPages, h.answer]
            rfl
          · intro e he
            rw [List.flatMap_singleton] at he
            exact hhere e he
      | some last =>
          have hlast : ∀ e ∈ some last, Iso.InRange e.2.createdAt.val := by
            rintro e ⟨⟩
            exact hrange invoices List.mem_cons_self _ _ (h.stored last (h.last_mem last rfl)).1
          obtain ⟨pages, ended, hw⟩ :=
            ih (fun inv hinv => hrange inv (List.mem_cons_of_mem _ hinv)) hlast
          refine ⟨⟨items, some (cursorText forms last)⟩ :: pages, ended, ?_, .next h.page hw.walk,
            (ended_cons rfl).trans hw.ended_iff, ?_⟩
          · rw [readPages, h.answer]
            exact congrArg _ hw.answered
          · intro e he
            rw [List.flatMap_cons, List.mem_append] at he
            rcases he with he | he
            · exact hhere e he
            · obtain ⟨inv, hinv, hdoc⟩ := hw.stored e he
              exact ⟨inv, List.mem_cons_of_mem _ hinv, hdoc⟩

end Walk

/-- An invoice that is listed in all of these collections has one key in all of them. -/
theorem exists_listed {query : ListQuery} {snapshots : List Invoices}
    {created : ObjectId → Option Stamp}
    (hcreated : ∀ invoices ∈ snapshots, ∀ id doc, invoices.lookup id = some doc →
      created id = some doc.createdAt) {id : ObjectId}
    (hall : ∀ invoices ∈ snapshots, ∃ doc, invoices.lookup id = some doc ∧
      query.wants doc = true) :
    ∃ doc, ∀ invoices ∈ snapshots, listKey (id, doc) ∈ query.listed invoices := by
  cases snapshots with
  -- any document will do
  | nil => exact ⟨sampleInvoice, nofun⟩
  | cons first rest =>
      obtain ⟨doc, hdoc, -⟩ := hall first List.mem_cons_self
      refine ⟨doc, ?_⟩
      intro invoices hinv
      obtain ⟨doc', hdoc', hwants⟩ := hall invoices hinv
      have hsame : doc'.createdAt = doc.createdAt := by
        have hcreated' := hcreated invoices hinv id doc' hdoc'
        rw [hcreated first List.mem_cons_self id doc hdoc] at hcreated'
        exact (Option.some.inj hcreated').symm
      refine ⟨id, doc', hdoc', hwants, ?_⟩
      rw [listKey, listKey, hsame]

theorem flatten_keys (pages : List ListPage) :
    (pages.map (fun page => page.items.map listKey)).flatten
      = (pages.flatMap ListPage.items).map listKey := by
  rw [List.map_flatMap, List.flatMap_def]

/-- The rows of a walk are strictly increasing. -/
theorem WalkFrom.increasing {forms : TextForms} {query : ListQuery} {snapshots : List Invoices}
    {cursor : Option (ObjectId × InvoiceDoc)} {pages : List ListPage} {ended : Bool}
    (h : WalkFrom forms query snapshots cursor pages ended) :
    (pages.flatMap ListPage.items).Pairwise (fun a b => listKey a < listKey b) := by
  have hsorted := h.walk.sorted
  rw [flatten_keys] at hsorted
  exact List.pairwise_map.mp hsorted

/-- Strictly increasing rows hold no invoice twice: two rows with one `_id` have one `created_at`,
and so the same key. -/
theorem nodup_of_increasing {rows : List (ObjectId × InvoiceDoc)}
    {created : ObjectId → Option Stamp}
    (h : rows.Pairwise (fun a b => listKey a < listKey b))
    (hrow : ∀ e ∈ rows, created e.1 = some e.2.createdAt) : (rows.map Prod.fst).Nodup := by
  refine List.pairwise_map.mpr (h.imp_of_mem ?_)
  intro a b ha hb hlt heq
  have hsame : a.2.createdAt = b.2.createdAt := by
    have hcreated_b := hrow b hb
    rw [← heq, hrow a ha] at hcreated_b
    exact Option.some.inj hcreated_b
  have hkey : listKey a = listKey b := by rw [listKey, listKey, hsame, heq]
  exact absurd hkey (ne_of_lt hlt)

/-- Without insertions, all keys are those of the first collection. -/
theorem listed_subset_first {query : ListQuery} {first : Invoices} {rest : List Invoices}
    {created : ObjectId → Option Stamp}
    (hcreated : ∀ invoices ∈ first :: rest, ∀ id doc, invoices.lookup id = some doc →
      created id = some doc.createdAt)
    (hsame : ∀ invoices ∈ rest, ∀ id doc, invoices.lookup id = some doc →
      ∃ doc₀, first.lookup id = some doc₀) :
    ∀ S ∈ (first :: rest).map query.listed, ∀ k ∈ S,
      k ∈ ((Collection.docs first).map listKey).toFinset := by
  intro S hS k hk
  obtain ⟨invoices, hinv, rfl⟩ := List.mem_map.mp hS
  obtain ⟨id, doc, hdoc, -, rfl⟩ := hk
  have hold : ∃ doc₀, first.lookup id = some doc₀ := by
    rcases List.mem_cons.mp hinv with rfl | hinv
    · exact ⟨doc, hdoc⟩
    · exact hsame invoices hinv id doc hdoc
  obtain ⟨doc₀, hdoc₀⟩ := hold
  have hcreated₀ := hcreated first List.mem_cons_self id doc₀ hdoc₀
  rw [hcreated invoices hinv id doc hdoc] at hcreated₀
  have hkey : listKey (id, doc₀) = listKey (id, doc) := by
    rw [listKey, listKey, Option.some.inj hcreated₀]
  exact List.mem_toFinset.mpr
    (List.mem_map.mpr ⟨(id, doc₀), Collection.mem_docs.mpr hdoc₀, hkey⟩)

/-- **The listing, page by page.** Whatever the collection holds at first, and whatever is
inserted and changed between the requests: a client reads all invoices of the listing, in order
and once. -/
theorem traversal_exact (forms : TextForms) (query : ListQuery) (snapshots : List Invoices)
    (hretains : snapshots.IsChain Retains) (hrange : ∀ invoices ∈ snapshots, Expressible invoices) :
    ∃ pages, ReadsAll forms query snapshots pages := by
  have hstart : ∀ e ∈ (none : Option (ObjectId × InvoiceDoc)),
      Iso.InRange e.2.createdAt.val := by
    intro e he
    cases he
  obtain ⟨pages, ended, h⟩ : ∃ pages ended, WalkFrom forms query snapshots none pages ended :=
    readPages_walk hrange hstart
  obtain ⟨created, hcreated⟩ := exists_createdAt (List.isChain_iff_pairwise.mp hretains)
  have hrow : ∀ e ∈ pages.flatMap ListPage.items, created e.1 = some e.2.createdAt := by
    intro e he
    obtain ⟨invoices, hinv, hdoc⟩ := h.stored e he
    exact hcreated invoices hinv _ _ hdoc
  refine ⟨pages, h.answered, h.increasing, nodup_of_increasing h.increasing hrow, ?_, ?_⟩
  · intro hended id hall
    obtain ⟨doc, hlisted⟩ := exists_listed
      (fun invoices hinv => hcreated invoices (List.mem_of_mem_take hinv)) hall
    have hread := h.walk.complete (h.ended_iff.mp hended) (k := listKey (id, doc)) nofun (by
      intro S hS
      rw [List.length_map, ← List.map_take] at hS
      obtain ⟨invoices, hinv, rfl⟩ := List.mem_map.mp hS
      exact hlisted invoices hinv)
    rw [flatten_keys] at hread
    obtain ⟨e, he, hkey⟩ := List.mem_map.mp hread
    have hid : e.1 = id := congrArg (fun k => (ofLex k).2) hkey
    exact List.mem_map.mpr ⟨e, he, hid⟩
  · intro first rest heq hsame hlength
    subst heq
    have hcard : ((Collection.docs first).map listKey).toFinset.card
        ≤ (Collection.docs first).length :=
      (List.toFinset_card_le _).trans (List.length_map listKey).le
    refine h.ended_iff.mpr (h.walk.ends (listed_subset_first hcreated hsame) ?_)
    rw [List.length_map]
    exact lt_of_le_of_lt hcard hlength

/-! ## Two requests -/

/-- An `_id` in 24 digits. -/
def digitForms : TextForms where
  str id := String.ofList (Numeral.fracDigits 24 id)
  objectId text := Numeral.parseDigits text.toList
  objectId_str := by
    intro id
    rw [String.toList_ofList]
    exact Numeral.parseDigits_fracDigits 24 id
  otherFormats _ := none

/-- Three invoices created at once. -/
def listedInvoices : Invoices :=
  AList.insert 1 sampleInvoice (AList.insert 2 { sampleInvoice with externalId := "order-2" }
    (AList.insert 3 { sampleInvoice with externalId := "order-3" } ∅))

/-- After the first page, the second invoice is canceled and a fourth one is stored. -/
def listedLater : Invoices :=
  AList.insert 4 { sampleInvoice with externalId := "order-4" } (cancelUpdate listedInvoices 2 0)

theorem retains_listedLater : Retains listedInvoices listedLater := by
  have hcancel : Retains listedInvoices (cancelUpdate listedInvoices 2 0) := by
    intro id doc hdoc
    exact Collection.exists_lookup_updateIf hdoc rfl (fun _ _ => rfl)
  refine hcancel.trans ?_
  intro id doc hdoc
  have hid : id ≠ 4 := by
    rintro rfl
    cases hdoc
  exact ⟨doc, (AList.lookup_insert_ne hid).trans hdoc, rfl⟩

theorem traversal_exact_two : ∃ pages, ReadsAll digitForms { limit := 2 }
    [listedInvoices, listedLater] pages := by
  refine traversal_exact digitForms { limit := 2 } _ ?_ ?_
  · exact List.isChain_pair.mpr retains_listedLater
  · have hepoch : ∀ invoices ∈ [listedInvoices, listedLater],
        ∀ e ∈ Collection.docs invoices, Iso.InRange e.2.createdAt.val := by decide
    intro invoices hinv id doc hdoc
    exact hepoch invoices hinv (id, doc) (Collection.mem_docs.mpr hdoc)

end V4vappDash
