import V4vappDash.Lib.Calendar
import V4vappDash.Lib.Numeral

set_option autoImplicit false

/-! # Instants as text

An instant is a number of microseconds since the start of the year 1970. `isoformat` writes it in
the extended format of ISO 8601, in UTC, as Python's `datetime.isoformat` does: the microseconds
are left out when there are none. `readUtc` reads this form back: `readUtc_isoText`.
-/

namespace Iso

open Calendar Numeral

/-- The start of the year 1970, counted from the start of the year 1. -/
def epoch : Nat := 719162 * 86400000000

/-- The instants of the years 1 to 9999. -/
def InRange (t : Int) : Prop := 0 ≤ t + epoch ∧ t + epoch < 3652059 * 86400000000

instance (t : Int) : Decidable (InRange t) := inferInstanceAs (Decidable (_ ∧ _))

def utcSuffix : List Char := "+00:00".toList

/-- Digits of a fraction of a second, after a point, or nothing. -/
def fractionText (micro : Nat) : List Char :=
  if micro = 0 then [] else '.' :: fracDigits 6 micro

def fieldsText (date : Date) (hour minute second micro : Nat) : List Char :=
  fracDigits 4 date.year ++ '-' :: (fracDigits 2 date.month ++ '-' :: (fracDigits 2 date.day ++
    'T' :: (fracDigits 2 hour ++ ':' :: (fracDigits 2 minute ++ ':' :: (fracDigits 2 second ++
      (fractionText micro ++ utcSuffix))))))

def isoText (t : Int) : List Char :=
  let u := (t + epoch).toNat
  let clock := u % 86400000000
  fieldsText (ofDays (u / 86400000000)) (clock / 3600000000) (clock / 60000000 % 60)
    (clock / 1000000 % 60) (clock % 1000000)

def isoformat (t : Int) : String := String.ofList (isoText t)

/-! ## Reading -/

/-- The value of the next `k` characters, which have to be digits, and what follows them. -/
def takeDigits (k : Nat) (s : List Char) : Option (Nat × List Char) :=
  if k ≤ s.length then (parseDigits (s.take k)).map (fun n => (n, s.drop k)) else none

def skip (c : Char) : List Char → Option (List Char)
  | [] => none
  | a :: s => if a = c then some s else none

def takeFraction : List Char → Option (Nat × List Char)
  | '.' :: s => takeDigits 6 s
  | s => some (0, s)

def instant (date : Date) (hour minute second micro : Nat) : Int :=
  (date.toDays * 86400000000 + hour * 3600000000 + minute * 60000000 + second * 1000000 + micro
    : Nat) - epoch

/-- A timestamp in the form that `isoformat` writes. -/
def readUtc (s : List Char) : Option Int := do
  let (year, s) ← takeDigits 4 s
  let s ← skip '-' s
  let (month, s) ← takeDigits 2 s
  let s ← skip '-' s
  let (day, s) ← takeDigits 2 s
  let s ← skip 'T' s
  let (hour, s) ← takeDigits 2 s
  let s ← skip ':' s
  let (minute, s) ← takeDigits 2 s
  let s ← skip ':' s
  let (second, s) ← takeDigits 2 s
  let (micro, s) ← takeFraction s
  if s = utcSuffix ∧ (Date.mk year month day).valid ∧ hour < 24 ∧ minute < 60 ∧ second < 60 then
    some (instant ⟨year, month, day⟩ hour minute second micro)
  else none

theorem takeDigits_fracDigits {k n : Nat} (hk : 0 < k) (hn : n < 10 ^ k) (rest : List Char) :
    takeDigits k (fracDigits k n ++ rest) = some (n, rest) := by
  have hlength := fracDigits_length hk hn
  have hle : k ≤ (fracDigits k n ++ rest).length := by
    rw [List.length_append]
    omega
  rw [takeDigits, if_pos hle, List.take_left' hlength, List.drop_left' hlength,
    parseDigits_fracDigits]
  rfl

theorem takeDigits_bind {α : Type} {k n : Nat} (hk : 0 < k) (hn : n < 10 ^ k)
    (rest : List Char) (f : Nat × List Char → Option α) :
    (takeDigits k (fracDigits k n ++ rest) >>= f) = f (n, rest) := by
  rw [takeDigits_fracDigits hk hn]
  rfl

theorem skip_bind {α : Type} (c : Char) (rest : List Char) (f : List Char → Option α) :
    (skip c (c :: rest) >>= f) = f rest := by
  rw [skip, if_pos rfl]
  rfl

theorem takeFraction_fractionText {micro : Nat} (h : micro < 1000000) :
    takeFraction (fractionText micro ++ utcSuffix) = some (micro, utcSuffix) := by
  unfold fractionText
  split_ifs with hzero
  · rw [hzero]
    rfl
  · exact takeDigits_fracDigits (by decide) h utcSuffix

theorem readUtc_fieldsText {date : Date} {hour minute second micro : Nat}
    (hvalid : date.valid = true) (hyear : date.year < 10000)
    (hclock : hour < 24 ∧ minute < 60 ∧ second < 60) (hmicro : micro < 1000000) :
    readUtc (fieldsText date hour minute second micro)
      = some (instant date hour minute second micro) := by
  obtain ⟨hmonth, hday⟩ := lt_of_valid hvalid
  unfold readUtc fieldsText
  rw [takeDigits_bind (by decide) hyear]
  dsimp only
  rw [skip_bind, takeDigits_bind (by decide) hmonth]
  dsimp only
  rw [skip_bind, takeDigits_bind (by decide) hday]
  dsimp only
  rw [skip_bind, takeDigits_bind (by decide) (hclock.1.trans (by decide))]
  dsimp only
  rw [skip_bind, takeDigits_bind (by decide) (hclock.2.1.trans (by decide))]
  dsimp only
  rw [skip_bind, takeDigits_bind (by decide) (hclock.2.2.trans (by decide))]
  dsimp only
  rw [takeFraction_fractionText hmicro]
  exact if_pos ⟨rfl, hvalid, hclock⟩

/-- **Round trip.** -/
theorem readUtc_isoText {t : Int} (h : InRange t) : readUtc (isoText t) = some t := by
  obtain ⟨hlo, hhi⟩ := h
  have hu : ((t + epoch).toNat : Int) = t + epoch := Int.toNat_of_nonneg hlo
  unfold isoText
  generalize (t + epoch).toNat = u at hu
  have hyear : (ofDays (u / 86400000000)).year < 10000 := year_ofDays_lt (by omega)
  dsimp only
  rw [readUtc_fieldsText (valid_ofDays _) hyear (by omega) (Nat.mod_lt _ (by decide)), instant,
    toDays_ofDays]
  -- the days and the fields of the clock make up the instant
  congr 1
  omega

/-! ## What is written -/

/-- Timestamps are written with digits and these separators. -/
theorem mem_isoText {t : Int} {c : Char} (hc : c ∈ isoText t) :
    c.isDigit = true ∨ c ∈ ['-', 'T', ':', '.', '+'] := by
  have hdigits : ∀ {k n : Nat}, c ∈ fracDigits k n → c.isDigit = true ∨
      c ∈ ['-', 'T', ':', '.', '+'] := fun h => Or.inl (isDigit_of_mem_fracDigits h)
  have hseparator : ∀ {d : Char}, d ∈ ['-', 'T', ':', '.', '+'] → c = d → c.isDigit = true ∨
      c ∈ ['-', 'T', ':', '.', '+'] := by
    rintro d hd rfl
    exact Or.inr hd
  unfold isoText fieldsText at hc
  simp only [List.mem_append, List.mem_cons] at hc
  rcases hc with hc | hc | hc | hc | hc | hc | hc | hc | hc | hc | hc | hc | hc
  · exact hdigits hc
  · exact hseparator (by decide) hc
  · exact hdigits hc
  · exact hseparator (by decide) hc
  · exact hdigits hc
  · exact hseparator (by decide) hc
  · exact hdigits hc
  · exact hseparator (by decide) hc
  · exact hdigits hc
  · exact hseparator (by decide) hc
  · exact hdigits hc
  · unfold fractionText at hc
    split_ifs at hc
    · cases hc
    · rcases List.mem_cons.mp hc with hc | hc
      · exact hseparator (by decide) hc
      · exact hdigits hc
  · have hsuffix : utcSuffix.all (fun c => c.isDigit || c ∈ ['-', 'T', ':', '.', '+']) = true :=
      rfl
    simpa using List.all_eq_true.mp hsuffix c hc

end Iso
