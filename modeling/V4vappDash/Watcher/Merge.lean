import V4vappDash.Watcher.Settlement

set_option autoImplicit false

/-! # Merging fresh outputs with recorded rows

`mergeOutputs` of `watcher/settlement.py`. The outputs the node reports come first, each with
the first-seen time already recorded for its outpoint; recorded rows the node no longer
reports follow, as they were stored.

Two facts carry the invariants over runs: `mem_mergeOutputs`, what an output of the merge can
be, and `mergeOutputs_detectedAt`, that the first-seen time of a recorded outpoint never
changes, provided the recorded rows agree on it (`Consistent`).
-/

namespace V4vappDash

/-- A recorded row as an output again. -/
def WatchedOutput.ofRow (row : TxRow Stamp) : WatchedOutput where
  txid := row.txid
  vout := row.vout
  duffs := row.duffs
  confirmations := row.confirmations
  instantlock := row.instantlock
  chainlock := row.chainlock
  detectedAt := row.detectedAt.val

/-- The recorded rows by outpoint. -/
def priorRows (existing : List (TxRow Stamp)) : Dict (String × Nat) (TxRow Stamp) :=
  Dict.ofList (existing.map (fun row => (row.key, row)))

/-- A reported output with the first-seen time recorded for it, if there is one. -/
def keepFirstSeen (prior : Dict (String × Nat) (TxRow Stamp)) (out : WatchedOutput) :
    WatchedOutput :=
  match prior.get? out.key with
  | some old => { out with detectedAt := old.detectedAt.val }
  | none => out

/-- Preserve first-seen times for outpoints already recorded. -/
def mergeOutputs (existing : List (TxRow Stamp)) (fresh : List WatchedOutput) :
    List WatchedOutput :=
  let prior := priorRows existing
  let seen := fresh.map WatchedOutput.key
  -- reported outputs first, then the recorded ones that were not reported
  fresh.map (keepFirstSeen prior) ++
    (prior.items.filter (fun p => p.1 ∉ seen)).map (fun p => WatchedOutput.ofRow p.2)

/-- All recorded rows of one outpoint have the same first-seen time. -/
def Consistent (rows : List (TxRow Stamp)) : Prop :=
  ∀ r ∈ rows, ∀ r' ∈ rows, r.key = r'.key → r.detectedAt = r'.detectedAt

/-! ## The recorded rows -/

theorem mem_of_priorRows {existing : List (TxRow Stamp)} {k : String × Nat} {row : TxRow Stamp}
    (h : (priorRows existing).get? k = some row) : row ∈ existing ∧ row.key = k := by
  obtain ⟨r, hr, heq⟩ := List.mem_map.mp (Dict.mem_of_get?_ofList h)
  obtain ⟨rfl, rfl⟩ := Prod.ext_iff.mp heq
  exact ⟨hr, rfl⟩

theorem exists_priorRows {existing : List (TxRow Stamp)} {row : TxRow Stamp}
    (h : row ∈ existing) : ∃ r, (priorRows existing).get? row.key = some r :=
  Dict.exists_get?_ofList (List.mem_map.mpr ⟨row, h, rfl⟩)

/-! ## The outputs of the merge -/

@[simp] theorem keepFirstSeen_key (prior : Dict (String × Nat) (TxRow Stamp))
    (out : WatchedOutput) : (keepFirstSeen prior out).key = out.key := by
  unfold keepFirstSeen
  split <;> rfl

theorem mem_mergeOutputs {existing : List (TxRow Stamp)} {fresh : List WatchedOutput}
    {out : WatchedOutput} :
    out ∈ mergeOutputs existing fresh ↔
      (∃ f ∈ fresh, keepFirstSeen (priorRows existing) f = out) ∨
      (∃ row, (priorRows existing).get? row.key = some row ∧
        row.key ∉ fresh.map WatchedOutput.key ∧ WatchedOutput.ofRow row = out) := by
  unfold mergeOutputs
  rw [List.mem_append, List.mem_map, List.mem_map]
  apply or_congr_right
  constructor
  · rintro ⟨⟨k, row⟩, hp, rfl⟩
    obtain ⟨hmem, hseen⟩ := List.mem_filter.mp hp
    have hget := (Dict.mem_items_iff _ _ _).mp hmem
    obtain ⟨-, rfl⟩ := mem_of_priorRows hget
    exact ⟨row, hget, by simpa using hseen, rfl⟩
  · rintro ⟨row, hget, hseen, rfl⟩
    exact ⟨(row.key, row), List.mem_filter.mpr
      ⟨(Dict.mem_items_iff _ _ _).mpr hget, by simpa using hseen⟩, rfl⟩

/-- No recorded outpoint is lost. -/
theorem exists_mem_mergeOutputs {existing : List (TxRow Stamp)} (fresh : List WatchedOutput)
    {row : TxRow Stamp} (h : row ∈ existing) :
    ∃ out ∈ mergeOutputs existing fresh, out.key = row.key := by
  by_cases hseen : row.key ∈ fresh.map WatchedOutput.key
  · obtain ⟨f, hf, hkey⟩ := List.mem_map.mp hseen
    exact ⟨keepFirstSeen (priorRows existing) f, mem_mergeOutputs.mpr (Or.inl ⟨f, hf, rfl⟩),
      by rw [keepFirstSeen_key, hkey]⟩
  · obtain ⟨r, hr⟩ := exists_priorRows h
    have hkey := (mem_of_priorRows hr).2
    refine ⟨WatchedOutput.ofRow r, mem_mergeOutputs.mpr (Or.inr ⟨r, ?_, ?_, rfl⟩), hkey⟩
    · rw [hkey]; exact hr
    · rw [hkey]; exact hseen

/-- The outpoints of a merge: those reported, then the recorded ones that were not reported. -/
theorem keys_mergeOutputs (existing : List (TxRow Stamp)) (fresh : List WatchedOutput) :
    (mergeOutputs existing fresh).map WatchedOutput.key
      = fresh.map WatchedOutput.key ++
        ((priorRows existing).items.map Prod.fst).filter
          (fun k => k ∉ fresh.map WatchedOutput.key) := by
  unfold mergeOutputs
  rw [List.map_append, List.map_map, List.map_map]
  congr 1
  · exact List.map_congr_left (fun out _ => keepFirstSeen_key _ out)
  · rw [List.filter_map]
    apply List.map_congr_left
    rintro ⟨k, row⟩ hp
    exact (mem_of_priorRows ((Dict.mem_items_iff _ _ _).mp (List.mem_filter.mp hp).1)).2

/-- Distinct outpoints stay distinct. -/
theorem nodup_keys_mergeOutputs (existing : List (TxRow Stamp)) {fresh : List WatchedOutput}
    (h : (fresh.map WatchedOutput.key).Nodup) :
    ((mergeOutputs existing fresh).map WatchedOutput.key).Nodup := by
  rw [keys_mergeOutputs]
  refine h.append ((priorRows existing).nodup_keys.filter _) ?_
  intro k hfresh hprior
  have hnot := (List.mem_filter.mp hprior).2
  exact absurd hfresh (by simpa using hnot)

/-- Where the first-seen time of a merged output comes from: a recorded row of its outpoint,
or the output itself, when the outpoint is new. -/
theorem mergeOutputs_cases {existing : List (TxRow Stamp)} {fresh : List WatchedOutput}
    {out : WatchedOutput} (h : out ∈ mergeOutputs existing fresh) :
    (∃ row ∈ existing, row.key = out.key ∧ out.detectedAt = row.detectedAt.val) ∨
    (out ∈ fresh ∧ ∀ row ∈ existing, row.key ≠ out.key) := by
  rcases mem_mergeOutputs.mp h with ⟨f, hf, rfl⟩ | ⟨row, hget, -, rfl⟩
  · cases hg : (priorRows existing).get? f.key with
    | some old =>
        obtain ⟨hmem, hkey⟩ := mem_of_priorRows hg
        refine Or.inl ⟨old, hmem, by rw [keepFirstSeen_key, hkey], ?_⟩
        simp [keepFirstSeen, hg]
    | none =>
        have hself : keepFirstSeen (priorRows existing) f = f := by simp [keepFirstSeen, hg]
        rw [hself]
        refine Or.inr ⟨hf, ?_⟩
        intro row hrow hkey
        obtain ⟨r, hr⟩ := exists_priorRows hrow
        rw [hkey, hg] at hr
        cases hr
  · exact Or.inl ⟨row, (mem_of_priorRows hget).1, rfl, rfl⟩

/-- The first-seen time of a recorded outpoint is kept. -/
theorem mergeOutputs_detectedAt {existing : List (TxRow Stamp)} {fresh : List WatchedOutput}
    (hcons : Consistent existing) {row : TxRow Stamp} (hrow : row ∈ existing)
    {out : WatchedOutput} (hout : out ∈ mergeOutputs existing fresh)
    (hkey : out.key = row.key) : out.detectedAt = row.detectedAt.val := by
  rcases mergeOutputs_cases hout with ⟨r, hr, hrkey, hrat⟩ | ⟨-, hnew⟩
  · rw [hrat, hcons r hr row hrow (hrkey.trans hkey)]
  · exact absurd hkey.symm (hnew row hrow)

/-- An outpoint of the merge was recorded, or is reported now. -/
theorem mergeOutputs_new {existing : List (TxRow Stamp)} {fresh : List WatchedOutput}
    {now : Datetime} (hfresh : ∀ f ∈ fresh, f.detectedAt = now) {out : WatchedOutput}
    (hout : out ∈ mergeOutputs existing fresh) :
    (∃ row ∈ existing, row.key = out.key ∧ out.detectedAt = row.detectedAt.val) ∨
    out.detectedAt = now := by
  rcases mergeOutputs_cases hout with h | ⟨hf, -⟩
  · exact Or.inl h
  · exact Or.inr (hfresh out hf)

/-- The rows a merge stores agree on first-seen times again. -/
theorem consistent_mergeOutputs {existing : List (TxRow Stamp)} {fresh : List WatchedOutput}
    {now : Datetime} (hcons : Consistent existing)
    (hfresh : ∀ f ∈ fresh, f.detectedAt = now) :
    Consistent ((mergeOutputs existing fresh).map (fun out => (txDict out).stored)) := by
  intro r hr r' hr' hkey
  obtain ⟨out, hout, rfl⟩ := List.mem_map.mp hr
  obtain ⟨out', hout', rfl⟩ := List.mem_map.mp hr'
  have hkey' : out.key = out'.key := hkey
  have hat : out.detectedAt = out'.detectedAt := by
    rcases mergeOutputs_cases hout with ⟨row, hrow, hk, hd⟩ | ⟨hf, hnew⟩
    · have hk' : out'.key = row.key := hkey'.symm.trans hk.symm
      calc out.detectedAt
          = row.detectedAt.val := hd
        _ = out'.detectedAt := (mergeOutputs_detectedAt hcons hrow hout' hk').symm
    · rcases mergeOutputs_cases hout' with ⟨row, hrow, hk, -⟩ | ⟨hf', -⟩
      · exact absurd (hk.trans hkey'.symm) (hnew row hrow)
      · rw [hfresh out hf, hfresh out' hf']
  exact congrArg Datetime.stored hat

end V4vappDash
