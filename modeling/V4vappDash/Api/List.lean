import V4vappDash.Api.Cancel
import V4vappDash.Lib.Iso
import V4vappDash.Lib.Keyset

set_option autoImplicit false

/-! # Listing invoices

`list_invoices` and `_split_cursor` of `api/v1/invoices.py`. A page is one query for one row more
than it may hold; the cursor of the next page is made from the last row of this one and is read
back by `_split_cursor`.

The text of an `ObjectId` is the driver's, and the formats that `datetime.fromisoformat` reads
besides the one that `isoformat` writes do not matter here: both are parameters (`TextForms`).
-/

namespace V4vappDash

structure TextForms where
  /-- `str` of an `ObjectId`. -/
  str : ObjectId → String
  /-- The constructor `ObjectId`; `none` is an `InvalidId`. -/
  objectId : String → Option ObjectId
  objectId_str : ∀ id, objectId (str id) = some id
  /-- What `fromisoformat` reads in other formats; `none` is a `ValueError`. -/
  otherFormats : List Char → Option Datetime

/-- `datetime.fromisoformat`. -/
def TextForms.fromisoformat (forms : TextForms) (text : List Char) : Option Datetime :=
  (Iso.readUtc text).or (forms.otherFormats text)

/-- `"Z"` replaced by `"+00:00"`. -/
def replaceZ (text : List Char) : List Char :=
  text.flatMap (fun c => if c = 'Z' then Iso.utcSuffix else [c])

/-- `_split_cursor`. -/
def splitCursor (forms : TextForms) (cursor : String) : Except ApiError (Datetime × String) :=
  if '|' ∉ cursor.toList then
    .error
      { statusCode := 400
        code := "invalid_request"
        message := "cursor must be created_at|_id" }
  else
    let createdRaw := cursor.toList.takeWhile (· ≠ '|')
    let idRaw := (cursor.toList.dropWhile (· ≠ '|')).tail
    match forms.fromisoformat (replaceZ createdRaw) with
    | none =>
        .error
          { statusCode := 400
            code := "invalid_request"
            message := "cursor timestamp is invalid" }
    | some created => .ok (created, String.ofList idRaw)

/-- `_as_object_id`. -/
def asObjectId (forms : TextForms) (invoiceId : String) : Except ApiError ObjectId :=
  match forms.objectId invoiceId with
  | none => .error notFound
  | some id => .ok id

/-- The parameters of `GET /v1/invoices`, after validation. -/
structure ListQuery where
  state : Option DashInvoiceState := none
  custId : Option String := none
  limit : Nat := 50
  limit_mem : 1 ≤ limit ∧ limit ≤ 200 := by decide

/-- The conditions on `state` and `cust_id`. -/
def ListQuery.wants (query : ListQuery) (doc : InvoiceDoc) : Bool :=
  query.state.all (fun state => doc.state = state) &&
    query.custId.all (fun custId => doc.custId = some custId)

/-- The condition `$or`. -/
def afterCursor (created : Stamp) (oid : ObjectId) (e : ObjectId × InvoiceDoc) : Bool :=
  created.val < e.2.createdAt.val || (e.2.createdAt = created && oid < e.1)

/-- The condition that comes from the cursor; the empty cursor is none. -/
def cursorFilter (forms : TextForms) (cursor : Option String) :
    Except ApiError (ObjectId × InvoiceDoc → Bool) :=
  match cursor with
  | none => .ok (fun _ => true)
  | some cursor =>
      if cursor = "" then .ok (fun _ => true)
      else do
        let (created, idRaw) ← splitCursor forms cursor
        let oid ← asObjectId forms idRaw
        -- the bound of the query is stored in milliseconds like every other time
        return afterCursor (Datetime.stored created) oid

/-- The sort order of the listing. -/
def listKey (e : ObjectId × InvoiceDoc) : Int ×ₗ Nat := toLex (e.2.createdAt.val, e.1)

def cursorText (forms : TextForms) (last : ObjectId × InvoiceDoc) : String :=
  Iso.isoformat last.2.createdAt.val ++ "|" ++ forms.str last.1

structure ListPage where
  items : List (ObjectId × InvoiceDoc)
  nextCursor : Option String

/-- `list_invoices`; `mongo` is `none` in a process without a database. -/
def listInvoices (forms : TextForms) (query : ListQuery) (cursor : Option String)
    (mongo : Option Invoices) : Except ApiError ListPage :=
  match mongo with
  | none =>
      .error
        { statusCode := 503
          code := "wallet_unavailable"
          message := "Mongo is not configured" }
  | some invoices => do
      let filter ← cursorFilter forms cursor
      let found := (Collection.docs invoices).filter (fun e => query.wants e.2 && filter e)
      let rows := (found.insertionSort (fun a b => listKey a ≤ listKey b)).take (query.limit + 1)
      let (items, last) := Keyset.lookAhead query.limit rows
      return ⟨items, last.map (cursorText forms)⟩

/-! ## Cursors -/

theorem replaceZ_of_notMem {text : List Char} (h : 'Z' ∉ text) : replaceZ text = text := by
  induction text with
  | nil => rfl
  | cons c rest ih =>
      rw [List.mem_cons, not_or] at h
      unfold replaceZ at ih ⊢
      rw [List.flatMap_cons, if_neg (Ne.symm h.1), ih h.2]
      rfl

theorem fromisoformat_isoText (forms : TextForms) {t : Datetime} (h : Iso.InRange t) :
    forms.fromisoformat (replaceZ (Iso.isoText t)) = some t := by
  have hZ : 'Z' ∉ Iso.isoText t := by
    intro hmem
    exact absurd (Iso.mem_isoText hmem) (by decide)
  rw [replaceZ_of_notMem hZ, TextForms.fromisoformat, Iso.readUtc_isoText h]
  rfl

theorem toList_cursorText (forms : TextForms) (last : ObjectId × InvoiceDoc) :
    (cursorText forms last).toList
      = Iso.isoText last.2.createdAt.val ++ '|' :: (forms.str last.1).toList := by
  rw [cursorText, String.toList_append, String.toList_append, Iso.isoformat, String.toList_ofList,
    List.append_assoc]
  rfl

/-- **A cursor is read back** as the time and the `_id` it was made from. -/
theorem cursorFilter_cursorText (forms : TextForms) {last : ObjectId × InvoiceDoc}
    (h : Iso.InRange last.2.createdAt.val) :
    cursorFilter forms (some (cursorText forms last))
      = .ok (afterCursor last.2.createdAt last.1) := by
  have hlist := toList_cursorText forms last
  have hbar : ∀ c ∈ Iso.isoText last.2.createdAt.val, decide (c ≠ '|') = true := by
    intro c hc
    rw [decide_eq_true_eq]
    rintro rfl
    exact absurd (Iso.mem_isoText hc) (by decide)
  have hmem : '|' ∈ (cursorText forms last).toList := by
    rw [hlist]
    exact List.mem_append_right _ List.mem_cons_self
  have hne : cursorText forms last ≠ "" := by
    intro heq
    rw [heq] at hmem
    cases hmem
  have htake : (cursorText forms last).toList.takeWhile (· ≠ '|')
      = Iso.isoText last.2.createdAt.val := by
    rw [hlist, List.takeWhile_append_of_pos hbar]
    simp
  have hdrop : (cursorText forms last).toList.dropWhile (· ≠ '|')
      = '|' :: (forms.str last.1).toList := by
    rw [hlist, List.dropWhile_append_of_pos hbar]
    rfl
  have hsplit : splitCursor forms (cursorText forms last)
      = .ok (last.2.createdAt.val, forms.str last.1) := by
    unfold splitCursor
    rw [if_neg (not_not.mpr hmem), htake, hdrop]
    dsimp only
    rw [fromisoformat_isoText forms h, List.tail_cons, String.ofList_toList]
  unfold cursorFilter
  dsimp only
  rw [if_neg hne, hsplit]
  show (asObjectId forms (forms.str last.1)).bind _ = _
  rw [asObjectId, forms.objectId_str]
  show Except.ok (afterCursor (Datetime.stored last.2.createdAt.val) last.1) = _
  rw [stored_val]

theorem afterCursor_iff {last e : ObjectId × InvoiceDoc} :
    afterCursor last.2.createdAt last.1 e = true ↔ listKey last < listKey e := by
  unfold afterCursor listKey
  rw [Prod.Lex.lt_iff]
  simp only [Bool.or_eq_true, Bool.and_eq_true, decide_eq_true_eq]
  show _ ↔ last.2.createdAt.val < e.2.createdAt.val ∨
    last.2.createdAt.val = e.2.createdAt.val ∧ last.1 < e.1
  have heq : e.2.createdAt = last.2.createdAt ↔ last.2.createdAt.val = e.2.createdAt.val :=
    ⟨fun h => by rw [h], fun h => GridPoint.ext h.symm⟩
  rw [heq]

/-! ## Pages -/

/-- The keys of the stored invoices that the conditions admit. -/
def ListQuery.listed (query : ListQuery) (invoices : Invoices) : Set (Int ×ₗ Nat) :=
  { k | ∃ id doc, invoices.lookup id = some doc ∧ query.wants doc = true ∧ listKey (id, doc) = k }

/-- An answer: a page, and the row its cursor is made from. -/
structure Answers (forms : TextForms) (query : ListQuery) (invoices : Invoices)
    (cursor : Option (ObjectId × InvoiceDoc)) (items : List (ObjectId × InvoiceDoc))
    (last : Option (ObjectId × InvoiceDoc)) : Prop where
  answer : listInvoices forms query (cursor.map (cursorText forms)) (some invoices)
    = .ok ⟨items, last.map (cursorText forms)⟩
  page : Keyset.IsPage (query.listed invoices) (cursor.map listKey) (items.map listKey)
    (last.map listKey)
  stored : ∀ e ∈ items, invoices.lookup e.1 = some e.2 ∧ query.wants e.2 = true
  last_mem : ∀ e ∈ last, e ∈ items

/-- The condition that comes from a cursor picks the rows after it. -/
theorem cursorFilter_spec (forms : TextForms) {cursor : Option (ObjectId × InvoiceDoc)}
    (hrange : ∀ e ∈ cursor, Iso.InRange e.2.createdAt.val) :
    ∃ filter, cursorFilter forms (cursor.map (cursorText forms)) = .ok filter ∧
      ∀ e, filter e = true ↔ Keyset.After (cursor.map listKey) (listKey e) := by
  cases cursor with
  | none => exact ⟨fun _ => true, rfl, fun e => ⟨fun _ => nofun, fun _ => rfl⟩⟩
  | some last =>
      refine ⟨_, cursorFilter_cursorText forms (hrange last rfl), ?_⟩
      intro e
      rw [afterCursor_iff]
      constructor
      · rintro h c ⟨⟩
        exact h
      · intro h
        exact h _ rfl

/-- **Every request is answered with a page.** -/
theorem listInvoices_answers (forms : TextForms) (query : ListQuery) (invoices : Invoices)
    {cursor : Option (ObjectId × InvoiceDoc)}
    (hrange : ∀ e ∈ cursor, Iso.InRange e.2.createdAt.val) :
    ∃ items last, Answers forms query invoices cursor items last := by
  obtain ⟨filter, hfilter, hafter⟩ := cursorFilter_spec forms hrange
  let found := (Collection.docs invoices).filter (fun e => query.wants e.2 && filter e)
  let rows := found.insertionSort (fun a b => listKey a ≤ listKey b)
  have hmem : ∀ e, e ∈ rows ↔ invoices.lookup e.1 = some e.2 ∧ query.wants e.2 = true ∧
      Keyset.After (cursor.map listKey) (listKey e) := by
    intro e
    show e ∈ List.insertionSort _ _ ↔ _
    rw [List.mem_insertionSort, List.mem_filter, Bool.and_eq_true, hafter]
    exact and_congr_left (fun _ => Collection.mem_docs)
  have hnodup : (found.map listKey).Nodup := by
    have hids : (found.map Prod.fst).Nodup :=
      (Collection.docs_keys_nodup invoices).sublist (List.filter_sublist.map _)
    -- rows with the same key have the same `_id`
    have hsecond : found.map Prod.fst = (found.map listKey).map (fun k => (ofLex k).2) := by
      rw [List.map_map]
      rfl
    rw [hsecond] at hids
    exact hids.of_map
  have hsorted := Keyset.pairwise_insertionSort hnodup
  have hpage := Keyset.isPage_lookAhead (S := query.listed invoices)
    query.limit_mem.1 hsorted (fun k => by
      constructor
      · rintro ⟨e, he, rfl⟩
        obtain ⟨hlook, hwants, hafter⟩ := (hmem e).mp he
        exact ⟨⟨e.1, e.2, hlook, hwants, rfl⟩, hafter⟩
      · rintro ⟨⟨id, doc, hlook, hwants, rfl⟩, hafter⟩
        exact ⟨(id, doc), (hmem (id, doc)).mpr ⟨hlook, hwants, hafter⟩, rfl⟩)
  obtain ⟨⟨items, last⟩, hpair⟩ :
      ∃ p, Keyset.lookAhead query.limit (rows.take (query.limit + 1)) = p := ⟨_, rfl⟩
  obtain ⟨hitems, hlast⟩ := Keyset.lookAhead_mem query.limit_mem.1 hpair
  refine ⟨items, last, ?_, ?_, ?_, hlast⟩
  · unfold listInvoices
    dsimp only
    rw [hfilter]
    show (let (items, last) := Keyset.lookAhead query.limit (rows.take (query.limit + 1))
      Except.ok (⟨items, last.map (cursorText forms)⟩ : ListPage)) = _
    rw [hpair]
  · rw [hpair] at hpage
    exact hpage
  · intro e he
    have hrow := (hmem e).mp (List.mem_of_mem_take (hitems e he))
    exact ⟨hrow.1, hrow.2.1⟩

end V4vappDash
