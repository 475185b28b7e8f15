import Mathlib.Data.List.TakeWhile
import V4vappDash.Lib.Decimal

set_option autoImplicit false

/-! # Fixed-point numerals

A number with `k` fractional digits, `n / 10ᵏ`, written as a plain numeral (`fixed`) and read
back (`parse`). What is written is read back (`parse_fixed`), and every numeral of this form is
read as such a number (`IsFixed.parse`). Integers without a point are read back too
(`parse_toString`).
-/

namespace Numeral

/-- Exactly `k` digits of `n`, with leading zeros. -/
def fracDigits (k n : Nat) : List Char :=
  List.replicate (k - (Nat.toDigits 10 n).length) '0' ++ Nat.toDigits 10 n

/-- `n / 10ᵏ` as digits, a point, and exactly `k` fractional digits. -/
def fixedDigits (k n : Nat) : List Char :=
  Nat.toDigits 10 (n / 10 ^ k) ++ '.' :: fracDigits k (n % 10 ^ k)

/-- The plain numeral of `n / 10ᵏ` with `k` fractional digits. -/
def fixed (k : Nat) (n : Int) : String :=
  String.ofList (if n < 0 then '-' :: fixedDigits k n.natAbs else fixedDigits k n.natAbs)

/-- The value of a nonempty list of digits. -/
def parseDigits (l : List Char) : Option Nat :=
  if l ≠ [] ∧ l.all Char.isDigit then some (Nat.ofDigitChars 10 l 0) else none

/-- Digits, optionally followed by a point and fractional digits. -/
def parseUnsigned (l : List Char) : Option Decimal :=
  match l.dropWhile (· != '.') with
  | [] => (parseDigits l).map (fun i => (i : Decimal))
  -- the first character is the point
  | _ :: frac => do
      let i ← parseDigits (l.takeWhile (· != '.'))
      let f ← parseDigits frac
      return (i : Decimal) + (f : Decimal) / 10 ^ frac.length

/-- The value of a plain numeral, with an optional minus sign. -/
def parse (s : String) : Option Decimal :=
  match s.toList with
  | '-' :: l => (parseUnsigned l).map (fun q => -q)
  | l => parseUnsigned l

/-! ## Digits -/

theorem isDigit_toDigits (n : Nat) : (Nat.toDigits 10 n).all Char.isDigit = true :=
  List.all_eq_true.mpr (fun _ hc =>
    Nat.isDigit_of_mem_toDigits (by omega : 0 < 10) (by omega : 10 ≤ 10) hc)

theorem isDigit_of_mem_fracDigits {k n : Nat} {c : Char} (hc : c ∈ fracDigits k n) :
    c.isDigit = true := by
  rcases List.mem_append.mp hc with hc | hc
  · rw [List.eq_of_mem_replicate hc]; decide
  · exact List.all_eq_true.mp (isDigit_toDigits n) c hc

theorem isDigit_fracDigits (k n : Nat) : (fracDigits k n).all Char.isDigit = true :=
  List.all_eq_true.mpr (fun _ hc => isDigit_of_mem_fracDigits hc)

theorem fracDigits_length {k n : Nat} (hk : 0 < k) (hn : n < 10 ^ k) :
    (fracDigits k n).length = k := by
  have := (Nat.length_toDigits_le_iff (b := 10) (by omega) hk).mpr hn
  rw [fracDigits, List.length_append, List.length_replicate]
  omega

theorem fracDigits_ne_nil (k n : Nat) : fracDigits k n ≠ [] := by simp [fracDigits]

/-- Leading zeros do not count. -/
theorem ofDigitChars_fracDigits (k n : Nat) : Nat.ofDigitChars 10 (fracDigits k n) 0 = n := by
  rw [fracDigits, Nat.ofDigitChars_append, Nat.ofDigitChars_replicate_zero, Nat.mul_zero,
    Nat.ofDigitChars_ten_toDigits]

theorem parseDigits_of_isDigit {l : List Char} (hne : l ≠ [])
    (hall : l.all Char.isDigit = true) : parseDigits l = some (Nat.ofDigitChars 10 l 0) := by
  rw [parseDigits, if_pos ⟨hne, hall⟩]

theorem parseDigits_toDigits (n : Nat) : parseDigits (Nat.toDigits 10 n) = some n := by
  rw [parseDigits_of_isDigit Nat.toDigits_ne_nil (isDigit_toDigits n),
    Nat.ofDigitChars_ten_toDigits]

theorem parseDigits_fracDigits (k n : Nat) : parseDigits (fracDigits k n) = some n := by
  rw [parseDigits_of_isDigit (fracDigits_ne_nil k n) (isDigit_fracDigits k n),
    ofDigitChars_fracDigits]

/-- No digit is the point or the minus sign. -/
theorem ne_of_isDigit {c : Char} (hc : c.isDigit = true) : (c != '.') = true ∧ c ≠ '-' := by
  constructor
  · rw [bne_iff_ne]
    rintro rfl
    exact absurd hc (by decide)
  · rintro rfl
    exact absurd hc (by decide)

/-- What is read from digits around a point. -/
theorem parseUnsigned_point {whole frac : List Char} (hwhole : whole ≠ [])
    (hwhole' : whole.all Char.isDigit = true) (hfrac : frac ≠ [])
    (hfrac' : frac.all Char.isDigit = true) :
    parseUnsigned (whole ++ '.' :: frac)
      = some ((Nat.ofDigitChars 10 (whole ++ frac) 0 : Decimal) / 10 ^ frac.length) := by
  have hpoint : ∀ c ∈ whole, (c != '.') = true :=
    fun c hc => (ne_of_isDigit (List.all_eq_true.mp hwhole' c hc)).1
  have hdrop : (whole ++ '.' :: frac).dropWhile (· != '.') = '.' :: frac := by
    rw [List.dropWhile_append_of_pos hpoint]
    rfl
  have htake : (whole ++ '.' :: frac).takeWhile (· != '.') = whole := by
    rw [List.takeWhile_append_of_pos hpoint]
    simp
  have hval : (Nat.ofDigitChars 10 whole 0 : Decimal)
      + (Nat.ofDigitChars 10 frac 0 : Decimal) / 10 ^ frac.length
      = (Nat.ofDigitChars 10 (whole ++ frac) 0 : Decimal) / 10 ^ frac.length := by
    have h10 : (10 : Decimal) ^ frac.length ≠ 0 := by positivity
    have hshift : Nat.ofDigitChars 10 frac (Nat.ofDigitChars 10 whole 0)
        = 10 ^ frac.length * Nat.ofDigitChars 10 whole 0 + Nat.ofDigitChars 10 frac 0 :=
      Nat.ofDigitChars_eq_ofDigitChars_zero
    rw [Nat.ofDigitChars_append, hshift]
    push_cast
    rw [add_div, mul_div_cancel_left₀ _ h10]
  rw [parseUnsigned, hdrop, htake]
  simp only [parseDigits_of_isDigit hwhole hwhole', parseDigits_of_isDigit hfrac hfrac']
  show some _ = some _
  rw [hval]

/-! ## The round trip -/

theorem parseUnsigned_fixedDigits {k : Nat} (hk : 0 < k) (n : Nat) :
    parseUnsigned (fixedDigits k n) = some ((n : Decimal) / 10 ^ k) := by
  have hlen := fracDigits_length hk (Nat.mod_lt n (by positivity : 0 < 10 ^ k))
  have hval : Nat.ofDigitChars 10 (Nat.toDigits 10 (n / 10 ^ k) ++ fracDigits k (n % 10 ^ k)) 0
      = n := by
    rw [Nat.ofDigitChars_append, Nat.ofDigitChars_ten_toDigits,
      Nat.ofDigitChars_eq_ofDigitChars_zero, hlen, ofDigitChars_fracDigits, Nat.div_add_mod]
  rw [fixedDigits, parseUnsigned_point Nat.toDigits_ne_nil (isDigit_toDigits _)
    (fracDigits_ne_nil _ _) (isDigit_fracDigits _ _), hval, hlen]

/-- **Round trip.** A fixed-point numeral is read back as the number it was written for. -/
theorem parse_fixed {k : Nat} (hk : 0 < k) (n : Int) :
    parse (fixed k n) = some ((n : Decimal) / 10 ^ k) := by
  rw [parse, fixed, String.toList_ofList]
  by_cases hn : n < 0
  · rw [if_pos hn]
    simp only [parseUnsigned_fixedDigits hk, Option.map_some]
    have habs : ((n.natAbs : Nat) : Decimal) = -(n : Decimal) := by
      rw [← Int.cast_natCast, Int.ofNat_natAbs_of_nonpos (le_of_lt hn)]
      push_cast; rfl
    rw [habs, neg_div, neg_neg]
  · rw [if_neg hn]
    have habs : ((n.natAbs : Nat) : Decimal) = (n : Decimal) := by
      rw [← Int.cast_natCast, Int.natAbs_of_nonneg (not_lt.mp hn)]
    -- a numeral without a sign starts with a digit, so `parse` does not take the other branch
    have hhead : ∀ l, fixedDigits k n.natAbs ≠ '-' :: l := by
      intro l hl
      cases hd : Nat.toDigits 10 (n.natAbs / 10 ^ k) with
      | nil => exact absurd hd Nat.toDigits_ne_nil
      | cons c t =>
          rw [fixedDigits, hd, List.cons_append, List.cons.injEq] at hl
          exact (ne_of_isDigit (List.all_eq_true.mp (isDigit_toDigits _) c
            (hd ▸ List.mem_cons_self))).2 hl.1
    split
    · next l hl => exact absurd hl (hhead l)
    · rw [parseUnsigned_fixedDigits hk, habs]

/-! ## Integers -/

/-- Digits without a point are an integer. -/
theorem parseUnsigned_toDigits (n : Nat) :
    parseUnsigned (Nat.toDigits 10 n) = some (n : Decimal) := by
  have hpoint : ∀ c ∈ Nat.toDigits 10 n, (c != '.') = true :=
    fun c hc => (ne_of_isDigit (List.all_eq_true.mp (isDigit_toDigits n) c hc)).1
  have hdrop : (Nat.toDigits 10 n).dropWhile (· != '.') = [] := List.dropWhile_eq_nil_iff.mpr hpoint
  rw [parseUnsigned, hdrop, parseDigits_toDigits]
  rfl

theorem parse_toString (n : Int) : parse (toString n) = some (n : Decimal) := by
  cases n with
  | ofNat m =>
      show parse (String.ofList (Nat.toDigits 10 m)) = _
      rw [parse, String.toList_ofList]
      split
      · next l hl =>
          have hmem : '-' ∈ Nat.toDigits 10 m := hl ▸ List.mem_cons_self
          exact absurd rfl (ne_of_isDigit (List.all_eq_true.mp (isDigit_toDigits m) _ hmem)).2
      · rw [parseUnsigned_toDigits]
        rfl
  | negSucc m =>
      show parse ("-" ++ String.ofList (Nat.toDigits 10 (m + 1))) = _
      have hlist : ("-" ++ String.ofList (Nat.toDigits 10 (m + 1))).toList
          = '-' :: Nat.toDigits 10 (m + 1) := by
        simp [String.toList_append]
      rw [parse, hlist]
      simp only [parseUnsigned_toDigits, Option.map_some, Int.cast_negSucc]

/-- Integers are told apart by their text. -/
theorem toString_injective : Function.Injective (toString : Int → String) := by
  intro a b h
  have hparse := (parse_toString a).symm.trans ((congrArg parse h).trans (parse_toString b))
  exact_mod_cast Option.some.inj hparse
/-! ## Numerals of a form -/

/-- A plain numeral with exactly `k` fractional digits. -/
def IsFixed (k : Nat) (s : String) : Prop :=
  ∃ whole frac : List Char, s.toList = whole ++ '.' :: frac ∧ whole ≠ [] ∧
    whole.all Char.isDigit = true ∧ frac.length = k ∧ frac.all Char.isDigit = true

theorem isFixed_fixed {k : Nat} (hk : 0 < k) {n : Int} (hn : 0 ≤ n) : IsFixed k (fixed k n) := by
  refine ⟨Nat.toDigits 10 (n.natAbs / 10 ^ k), fracDigits k (n.natAbs % 10 ^ k), ?_,
    Nat.toDigits_ne_nil, isDigit_toDigits _, fracDigits_length hk (Nat.mod_lt _ (by positivity)),
    isDigit_fracDigits _ _⟩
  rw [fixed, if_neg (not_lt.mpr hn), String.toList_ofList, fixedDigits]

/-- **Reading.** A numeral of this form is read as a number with `k` fractional digits. -/
theorem IsFixed.parse {k : Nat} (hk : 0 < k) {s : String} (h : IsFixed k s) :
    ∃ n : Nat, Numeral.parse s = some ((n : Decimal) / 10 ^ k) := by
  obtain ⟨whole, frac, hs, hwhole, hwhole', rfl, hfrac'⟩ := h
  have hfrac : frac ≠ [] := List.ne_nil_of_length_pos hk
  refine ⟨Nat.ofDigitChars 10 (whole ++ frac) 0, ?_⟩
  rw [Numeral.parse, hs]
  split
  · next l hl =>
      -- the first character is a digit
      cases whole with
      | nil => exact absurd rfl hwhole
      | cons c rest =>
          rw [List.cons_append, List.cons.injEq] at hl
          exact absurd hl.1 (ne_of_isDigit (List.all_eq_true.mp hwhole' c List.mem_cons_self)).2
  · exact parseUnsigned_point hwhole hwhole' hfrac hfrac'

end Numeral
