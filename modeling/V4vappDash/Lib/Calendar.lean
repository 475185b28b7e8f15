import Mathlib.Data.List.Basic

set_option autoImplicit false

/-! # The Gregorian calendar

Dates of the proleptic Gregorian calendar as day numbers, counted from the first day of the
year 1. `ofDays` finds the date of a day number and `Date.toDays` counts back:
`toDays_ofDays`.
-/

namespace Calendar

structure Date where
  year : Nat
  month : Nat
  day : Nat
  deriving DecidableEq, Repr

def isLeap (year : Nat) : Bool := year % 4 = 0 && (year % 100 ≠ 0 || year % 400 = 0)

/-- The days of a year before a month. -/
def daysBeforeMonth (leap : Bool) (month : Nat) : Nat :=
  [0, 0, 31, 59, 90, 120, 151, 181, 212, 243, 273, 304, 334].getD month 0
    + if leap && 2 < month then 1 else 0

def daysInMonth (leap : Bool) (month : Nat) : Nat :=
  [0, 31, 28, 31, 30, 31, 30, 31, 31, 30, 31, 30, 31].getD month 0
    + if leap && month = 2 then 1 else 0

def daysBeforeYear (year : Nat) : Nat :=
  (year - 1) * 365 + (year - 1) / 4 - (year - 1) / 100 + (year - 1) / 400

def daysInYear (leap : Bool) : Nat := if leap then 366 else 365

def Date.toDays (d : Date) : Nat :=
  daysBeforeYear d.year + daysBeforeMonth (isLeap d.year) d.month + (d.day - 1)

/-- The date exists. -/
def Date.valid (d : Date) : Bool :=
  1 ≤ d.year && 1 ≤ d.month && d.month ≤ 12 && 1 ≤ d.day &&
    d.day ≤ daysInMonth (isLeap d.year) d.month

/-- The year of a day number, and the number of the day in its year. Cycles of 400, 100, 4 and
one years are counted off; the last one of each kind may have a day more. -/
def yearOf (n : Nat) : Nat × Nat :=
  let in400 := n % 146097
  let n100 := min (in400 / 36524) 3
  let in100 := in400 - n100 * 36524
  let n4 := in100 / 1461
  let in4 := in100 % 1461
  let n1 := min (in4 / 365) 3
  (400 * (n / 146097) + 100 * n100 + 4 * n4 + n1 + 1, in4 - n1 * 365)

/-- The month of a day of the year. No month is longer than 32 days, so the first guess is right
or one too high. -/
def monthOf (leap : Bool) (n : Nat) : Nat :=
  let guess := (n + 50) / 32
  if n < daysBeforeMonth leap guess then guess - 1 else guess

def ofDays (n : Nat) : Date :=
  let (year, n) := yearOf n
  let month := monthOf (isLeap year) n
  ⟨year, month, n - daysBeforeMonth (isLeap year) month + 1⟩

/-! ## There and back -/

/-- A day of the year lies in the month that is found for it. -/
theorem monthOf_spec (leap : Bool) {n : Nat} (hn : n < daysInYear leap) :
    1 ≤ monthOf leap n ∧ monthOf leap n ≤ 12 ∧ daysBeforeMonth leap (monthOf leap n) ≤ n ∧
      n < daysBeforeMonth leap (monthOf leap n) + daysInMonth leap (monthOf leap n) := by
  have hall : ∀ leap : Bool, ∀ n < daysInYear leap,
      1 ≤ monthOf leap n ∧ monthOf leap n ≤ 12 ∧ daysBeforeMonth leap (monthOf leap n) ≤ n ∧
        n < daysBeforeMonth leap (monthOf leap n) + daysInMonth leap (monthOf leap n) := by
    decide +kernel
  exact hall leap n hn

/-- A year counted in cycles. -/
theorem daysBeforeYear_cycles {a b c d : Nat} (hb : b ≤ 3) (hc : c ≤ 24) (hd : d ≤ 3) :
    daysBeforeYear (400 * a + 100 * b + 4 * c + d + 1)
      = 146097 * a + 36524 * b + 1461 * c + 365 * d := by
  unfold daysBeforeYear
  have h4 : (400 * a + 100 * b + 4 * c + d + 1 - 1) / 4 = 100 * a + 25 * b + c := by omega
  have h100 : (400 * a + 100 * b + 4 * c + d + 1 - 1) / 100 = 4 * a + b := by omega
  have h400 : (400 * a + 100 * b + 4 * c + d + 1 - 1) / 400 = a := by omega
  rw [h4, h100, h400]
  omega

/-- The last year of four is a leap year, unless it ends a century that does not end a cycle. -/
theorem isLeap_cycles {a b c d : Nat} (hb : b ≤ 3) (hc : c ≤ 24) (hd : d ≤ 3) :
    isLeap (400 * a + 100 * b + 4 * c + d + 1) = true ↔ d = 3 ∧ (c < 24 ∨ b = 3) := by
  unfold isLeap
  simp only [Bool.and_eq_true, Bool.or_eq_true, decide_eq_true_eq, ne_eq]
  omega

theorem yearOf_spec (n : Nat) :
    daysBeforeYear (yearOf n).1 + (yearOf n).2 = n ∧
      (yearOf n).2 < daysInYear (isLeap (yearOf n).1) := by
  unfold yearOf
  dsimp only
  generalize ha : n / 146097 = a
  generalize hb : min (n % 146097 / 36524) 3 = b
  generalize hc : (n % 146097 - b * 36524) / 1461 = c
  generalize hd : min ((n % 146097 - b * 36524) % 1461 / 365) 3 = d
  have hb3 : b ≤ 3 := by omega
  have hc24 : c ≤ 24 := by omega
  have hd3 : d ≤ 3 := by omega
  rw [daysBeforeYear_cycles hb3 hc24 hd3]
  refine ⟨by omega, ?_⟩
  unfold daysInYear
  by_cases hleap : isLeap (400 * a + 100 * b + 4 * c + d + 1) = true
  · rw [if_pos hleap]
    omega
  · rw [if_neg hleap]
    rw [isLeap_cycles hb3 hc24 hd3] at hleap
    omega

theorem toDays_ofDays (n : Nat) : (ofDays n).toDays = n := by
  obtain ⟨hyear, hlt⟩ := yearOf_spec n
  unfold Date.toDays ofDays
  generalize yearOf n = p at hyear hlt ⊢
  have hle := (monthOf_spec _ hlt).2.2.1
  dsimp only
  omega

theorem valid_ofDays (n : Nat) : (ofDays n).valid = true := by
  have hpos : 1 ≤ (yearOf n).1 := Nat.le_add_left 1 _
  have hlt := (yearOf_spec n).2
  unfold Date.valid ofDays
  generalize yearOf n = p at hpos hlt ⊢
  obtain ⟨hm1, hm12, hle, hday⟩ := monthOf_spec _ hlt
  simp only [Bool.and_eq_true, decide_eq_true_eq]
  omega

/-- Months and days have two digits at most. -/
theorem lt_of_valid {d : Date} (h : d.valid = true) : d.month < 100 ∧ d.day < 100 := by
  have hmonths : ∀ leap : Bool, ∀ month ≤ 12, daysInMonth leap month < 100 := by decide
  unfold Date.valid at h
  simp only [Bool.and_eq_true, decide_eq_true_eq] at h
  have hday := hmonths (isLeap d.year) d.month h.1.1.2
  omega

/-- The years of the first 3652059 days have four digits. -/
theorem year_ofDays_lt {n : Nat} (hn : n < 3652059) : (ofDays n).year < 10000 := by
  show (yearOf n).1 < 10000
  unfold yearOf
  dsimp only
  omega

end Calendar
