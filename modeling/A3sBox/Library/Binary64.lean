import A3sBox.Library.Text
import Mathlib.Data.Int.Log
import Mathlib.Data.List.TakeWhile
import Mathlib.Data.Rat.Floor
import Mathlib.Tactic.Linarith

/-!
# Numbers of double precision

The type `f64` of Rust: 53 binary digits, rounded to nearest, ties to even. A value is given by its rational number;
the two zeros are one. Numbers of 53 digits are represented exactly (`ofRat_of_representable`), so a product with a
power of two is exact (`mul_toUnsigned_eq_iff`). A text that is an unsigned number is read as that number
(`parse_of_parseInt`).
-/

namespace Binary64

open Text List

/-- A number of double precision. -/
inductive F64 where
  | nan
  | infinite (negative : Bool)
  | finite (value : ℚ)
  deriving DecidableEq, Repr

/-- The nearest whole number; of two that are equally near, the even one. -/
def roundEven (q : ℚ) : ℤ :=
  let floor := ⌊q⌋
  if q - floor < 1 / 2 ∨ (q - floor = 1 / 2 ∧ floor % 2 = 0) then floor else floor + 1

/-- The exponent of the last digit of a positive number. -/
def lastDigit (q : ℚ) : ℤ := max (Int.log 2 q - 52) (-1074)

/-- The nearest number of double precision. -/
def F64.ofRat (q : ℚ) : F64 :=
  let unit : ℚ := 2 ^ lastDigit |q|
  let value := roundEven (q / unit) * unit
  if 2 ^ 1024 ≤ |value| then .infinite (decide (q < 0)) else .finite value

/-- The product. -/
def F64.mul : F64 → F64 → F64
  | .finite a, .finite b => .ofRat (a * b)
  | .infinite s, .infinite t => .infinite (s != t)
  | .infinite s, .finite b | .finite b, .infinite s => if b = 0 then .nan else .infinite (s != decide (b < 0))
  | .nan, _ | _, .nan => .nan

/-- The whole number of an unsigned type next to it towards zero; the nearest one if it is out of range. -/
def F64.toUnsigned (max : ℕ) : F64 → ℕ
  | .nan => 0
  | .infinite negative => if negative then 0 else max
  | .finite value => min ⌊value⌋₊ max

theorem toUnsigned_le (max : ℕ) (x : F64) : x.toUnsigned max ≤ max := by
  rcases x with _ | negative | _
  · exact Nat.zero_le max
  · cases negative
    · exact le_rfl
    · exact Nat.zero_le max
  · exact min_le_right _ _

theorem roundEven_intCast (n : ℤ) : roundEven (n : ℚ) = n := by
  simp [roundEven]

/-! ### The numbers there are -/

/-- The rational numbers with 53 binary digits, the last of them not below `2 ^ (-1074)`. -/
def Representable (q : ℚ) : Prop := ∃ n e : ℤ, |n| < 2 ^ 53 ∧ -1074 ≤ e ∧ q = n * 2 ^ e

variable {n max : ℕ} {q v : ℚ} {s : List Char}

theorem representable_natCast (h : n < 2 ^ 53) : Representable n := by
  refine ⟨n, 0, ?_, by decide, by simp⟩
  exact_mod_cast h

theorem Representable.neg (h : Representable q) : Representable (-q) := by
  obtain ⟨n, e, _, he, rfl⟩ := h
  exact ⟨-n, e, by rwa [abs_neg], he, by push_cast; ring⟩

theorem Representable.mul_two_pow (h : Representable q) (k : ℕ) : Representable (q * 2 ^ k) := by
  obtain ⟨n, e, hn, _, rfl⟩ := h
  refine ⟨n, e + k, hn, by omega, ?_⟩
  rw [zpow_add₀ two_ne_zero, zpow_natCast, mul_assoc]

theorem lastDigit_le {n e : ℤ} (hn : |n| < 2 ^ 53) (he : -1074 ≤ e) (h0 : n ≠ 0) : lastDigit |(n : ℚ) * 2 ^ e| ≤ e := by
  have hpow : (0 : ℚ) < 2 ^ e := zpow_pos two_pos e
  have hpos : 0 < |(n : ℚ) * 2 ^ e| := abs_pos.mpr (mul_ne_zero (Int.cast_ne_zero.mpr h0) hpow.ne')
  have hlt : |(n : ℚ) * 2 ^ e| < 2 ^ (53 + e) := by
    rw [abs_mul, abs_of_pos hpow, zpow_add₀ two_ne_zero]
    have hcast : |(n : ℚ)| < 2 ^ (53 : ℤ) := by exact_mod_cast hn
    exact mul_lt_mul_of_pos_right hcast hpow
  have hlog : Int.log 2 |(n : ℚ) * 2 ^ e| < 53 + e := by
    rw [← Int.lt_zpow_iff_log_lt (by decide) hpos]
    exact_mod_cast hlt
  exact max_le (by omega) he

/-- **A number with 53 digits is represented exactly**, unless it is too large. -/
theorem ofRat_of_representable (h : Representable q) :
    F64.ofRat q = if 2 ^ 1024 ≤ |q| then .infinite (decide (q < 0)) else .finite q := by
  have hvalue : (roundEven (q / 2 ^ lastDigit |q|) : ℚ) * 2 ^ lastDigit |q| = q := by
    obtain ⟨n, e, hn, he, rfl⟩ := h
    by_cases h0 : n = 0
    · simp [h0, roundEven]
    · obtain ⟨k, hk⟩ := Int.le.dest (lastDigit_le hn he h0)
      generalize lastDigit |(n : ℚ) * 2 ^ e| = l at hk
      have hunit : (2 : ℚ) ^ l ≠ 0 := (zpow_pos two_pos l).ne'
      -- in units of its last digit, the number is whole
      have hwhole : (n : ℚ) * 2 ^ e / 2 ^ l = ((n * 2 ^ k : ℤ) : ℚ) := by
        rw [← hk, zpow_add₀ two_ne_zero, zpow_natCast]
        push_cast
        field_simp
      rw [hwhole, roundEven_intCast, ← hwhole, div_mul_cancel₀ _ hunit]
  simp only [F64.ofRat, hvalue]

theorem ofRat_natCast (h : n < 2 ^ 53) : F64.ofRat n = .finite n := by
  have hsmall : ¬ (2 : ℚ) ^ 1024 ≤ |(n : ℚ)| := by
    rw [Nat.abs_cast, not_le]
    have hlt : (n : ℚ) < 2 ^ 53 := by exact_mod_cast h
    exact hlt.trans (pow_lt_pow_right₀ one_lt_two (by decide))
  rw [ofRat_of_representable (representable_natCast h), if_neg hsmall]

theorem abs_roundEven_le {m : ℕ} (h : |q| < m) : |roundEven q| ≤ m := by
  obtain ⟨hlow, hhigh⟩ := abs_lt.mp h
  have hfloor : -(m : ℤ) ≤ ⌊q⌋ := Int.le_floor.mpr (by push_cast; exact hlow.le)
  have hfloor' : ⌊q⌋ < m := Int.floor_lt.mpr (by exact_mod_cast hhigh)
  rw [abs_le, roundEven]
  split_ifs <;> omega

/-- **What comes of rounding has 53 digits.** -/
theorem representable_of_ofRat (h : F64.ofRat q = .finite v) : Representable v := by
  rw [F64.ofRat] at h
  split_ifs at h
  cases h
  have he : -1074 ≤ lastDigit |q| := le_max_right _ _
  have hlog : Int.log 2 |q| + 1 ≤ 53 + lastDigit |q| := by
    have := le_max_left (Int.log 2 |q| - 52) (-1074)
    rw [← lastDigit] at this
    omega
  generalize lastDigit |q| = e at he hlog
  have hpow : (0 : ℚ) < 2 ^ e := zpow_pos two_pos e
  have hlt : |q / 2 ^ e| < (2 ^ 53 : ℕ) := by
    rw [abs_div, abs_of_pos hpow, div_lt_iff₀ hpow]
    calc |q| < 2 ^ (Int.log 2 |q| + 1) := by exact_mod_cast Int.lt_zpow_succ_log_self (by decide) |q|
      _ ≤ 2 ^ (53 + e) := zpow_le_zpow_right₀ one_le_two hlog
      _ = (2 ^ 53 : ℕ) * 2 ^ e := by rw [zpow_add₀ two_ne_zero]; norm_num
  have hround : |roundEven (q / 2 ^ e)| ≤ 2 ^ 53 := by exact_mod_cast abs_roundEven_le hlt
  rcases hround.lt_or_eq with hsmall | hfull
  · exact ⟨_, e, hsmall, he, rfl⟩
  · -- the digits were rounded up to one more: all but the first are zero
    rcases (abs_eq (by decide)).mp hfull with hvalue | hvalue
    · refine ⟨2 ^ 52, e + 1, by decide, by omega, ?_⟩
      rw [hvalue, zpow_add₀ two_ne_zero]
      ring
    · refine ⟨-2 ^ 52, e + 1, by decide, by omega, ?_⟩
      rw [hvalue, zpow_add₀ two_ne_zero]
      ring

/-- When a product with a power of two, cut to a whole number, is a given one. -/
theorem mul_toUnsigned_eq_iff {x : F64} (hx : ∀ v, x = .finite v → Representable v) (k : ℕ) (hn : 0 < n)
    (hmax : n < max) (hlarge : max < 2 ^ 64) :
    (x.mul (.finite (2 ^ k))).toUnsigned max = n ↔ ∃ v, x = .finite v ∧ (n : ℚ) ≤ v * 2 ^ k ∧ v * 2 ^ k < n + 1 := by
  have hpow : (0 : ℚ) < 2 ^ k := pow_pos two_pos k
  have hend : ∀ negative, (F64.infinite negative).toUnsigned max ≠ n := by
    rintro (_ | _)
    · exact hmax.ne'
    · exact hn.ne
  cases x with
  | nan => simp [F64.mul, F64.toUnsigned, hn.ne]
  | infinite negative =>
    have hmul : (F64.infinite negative).mul (.finite (2 ^ k)) = .infinite (negative != decide ((2 : ℚ) ^ k < 0)) :=
      if_neg hpow.ne'
    rw [hmul]
    exact ⟨fun h => absurd h (hend _), fun ⟨v, hv, _⟩ => nomatch hv⟩
  | finite v =>
    have hmul : (F64.finite v).mul (.finite (2 ^ k)) = _ := ofRat_of_representable ((hx v rfl).mul_two_pow k)
    rw [hmul]
    simp only [F64.finite.injEq, exists_eq_left']
    split_ifs with hover
    · refine ⟨fun h => absurd h (hend _), fun ⟨hlow, hhigh⟩ => ?_⟩
      rw [abs_of_nonneg ((Nat.cast_nonneg n).trans hlow)] at hover
      have hcast : (n + 1 : ℚ) ≤ 2 ^ 64 := by exact_mod_cast hmax.trans hlarge
      have hlt : (2 : ℚ) ^ 64 < 2 ^ 1024 := pow_lt_pow_right₀ one_lt_two (by decide)
      exact absurd (hover.trans_lt (hhigh.trans_le hcast)) (not_lt.mpr hlt.le)
    · rw [F64.toUnsigned, ← Nat.floor_eq_iff' hn.ne']
      omega

/-! ### Reading a number -/

/-- The number that digits stand for. -/
def digitsValue (s : List Char) : Option ℕ := (s.mapM digit?).map fun digits => digits.foldl (fun n d => n * 10 + d) 0

/-- An exponent, with a sign or without. -/
def parseExponent : List Char → Option ℤ
  | '-' :: c :: cs => (digitsValue (c :: cs)).map fun n : ℕ => -(n : ℤ)
  | '+' :: c :: cs | c :: cs => (digitsValue (c :: cs)).map fun n : ℕ => (n : ℤ)
  | [] => none

/-- Digits with a point or without, at least one of them, and an exponent. -/
def parseMantissa (s : List Char) (exponent : ℤ) : Option F64 :=
  match s.splitOn '.' with
  | [whole] => if whole = [] then none else (digitsValue whole).map fun n : ℕ => .ofRat (n * 10 ^ exponent)
  | [whole, fraction] =>
    if whole = [] ∧ fraction = [] then none
    else (digitsValue (whole ++ fraction)).map fun n : ℕ => .ofRat (n * 10 ^ (exponent - fraction.length))
  | _ => none

/-- A number without a sign. -/
def parseMagnitude (s : List Char) : Option F64 :=
  if eqIgnoreAsciiCase s "inf".toList || eqIgnoreAsciiCase s "infinity".toList then some (.infinite false)
  else if eqIgnoreAsciiCase s "nan".toList then some .nan
  else
    let isMark := fun c : Char => c == 'e' || c == 'E'
    match s.dropWhile (fun c => !isMark c) with
    | [] => parseMantissa s 0
    | _ :: exponent => (parseExponent exponent).bind (parseMantissa (s.takeWhile fun c => !isMark c))

/-- The number with the other sign. -/
def F64.neg : F64 → F64
  | .nan => .nan
  | .infinite negative => .infinite !negative
  | .finite value => .finite (-value)

/-- A number of double precision, from its text. -/
def parse : List Char → Option F64
  | '-' :: s => (parseMagnitude s).map F64.neg
  | '+' :: s => parseMagnitude s
  | s => parseMagnitude s

theorem digitsValue_of_parseDigits (h : parseDigits max 0 s = .ok n) : digitsValue s = some n := by
  have hgen : ∀ acc, parseDigits max acc s = .ok n →
      ((s.mapM digit?).map fun digits => digits.foldl (fun n d => n * 10 + d) acc) = some n := by
    clear h
    induction s with
    | nil =>
      intro acc h
      cases h
      rfl
    | cons _ s ih =>
      intro acc h
      rw [parseDigits] at h
      split at h
      · cases h
      next d hd =>
        split_ifs at h
        have hvalue := ih _ h
        rw [mapM_cons, hd]
        cases hs : s.mapM digit? with
        | none =>
          rw [hs] at hvalue
          cases hvalue
        | some =>
          rw [hs] at hvalue
          exact hvalue
  exact hgen 0 h

theorem not_eqIgnoreAsciiCase (hdigits : ∀ c ∈ s, c.isDigit = true) {word} (c : Char)
    (hc : c ∈ word.map toAsciiLower) (hletter : 'a' ≤ c) : eqIgnoreAsciiCase s word = false := by
  refine beq_false_of_ne fun heq => ?_
  rw [← heq] at hc
  obtain ⟨d, hd, rfl⟩ := mem_map.mp hc
  have hdigit := hdigits d hd
  have hle : d.toNat ≤ 57 := by
    have hbounds : 48 ≤ d.toNat ∧ d.toNat ≤ 57 := by
      simpa [Char.isDigit, UInt32.le_iff_toNat_le] using hdigit
    exact hbounds.2
  have hsame : toAsciiLower d = d := by
    refine if_neg fun hupper => ?_
    have h65 : 65 ≤ d.toNat := hupper.1
    omega
  rw [hsame] at hletter
  have h97 : 97 ≤ d.toNat := hletter
  omega

theorem parseMagnitude_of_digits (h : parseDigits max 0 s = .ok n) (hne : s ≠ []) (hsmall : n < 2 ^ 53) :
    parseMagnitude s = some (.finite n) := by
  have hvalue := digitsValue_of_parseDigits h
  have hdigits := isDigit_of_parseDigits h
  have hinf : eqIgnoreAsciiCase s "inf".toList = false := not_eqIgnoreAsciiCase hdigits 'i' (by decide) (by decide)
  have hinfinity : eqIgnoreAsciiCase s "infinity".toList = false :=
    not_eqIgnoreAsciiCase hdigits 'i' (by decide) (by decide)
  have hnan : eqIgnoreAsciiCase s "nan".toList = false := not_eqIgnoreAsciiCase hdigits 'n' (by decide) (by decide)
  have hmark : s.dropWhile (fun c => !(c == 'e' || c == 'E')) = [] := by
    refine dropWhile_eq_nil_iff.mpr fun c hc => ?_
    have he : c ≠ 'e' := fun heq => absurd (heq ▸ hdigits c hc) (by decide)
    have hE : c ≠ 'E' := fun heq => absurd (heq ▸ hdigits c hc) (by decide)
    simp [he, hE]
  have hpoint : '.' ∉ s := fun hmem => absurd (hdigits _ hmem) (by decide)
  simp only [parseMagnitude, hinf, hinfinity, hnan, hmark, Bool.or_self, Bool.false_eq_true, if_false, parseMantissa,
    splitOn_eq_singleton hpoint, if_neg hne, hvalue, Option.map_some, zpow_zero, mul_one, ofRat_natCast hsmall]

theorem representable_of_parseMantissa {exponent} (h : parseMantissa s exponent = some (.finite v)) :
    Representable v := by
  unfold parseMantissa at h
  split at h
  · split_ifs at h
    obtain ⟨_, -, hn⟩ := Option.map_eq_some_iff.mp h
    exact representable_of_ofRat hn
  · split_ifs at h
    obtain ⟨_, -, hn⟩ := Option.map_eq_some_iff.mp h
    exact representable_of_ofRat hn
  · cases h

theorem representable_of_parseMagnitude (h : parseMagnitude s = some (.finite v)) : Representable v := by
  unfold parseMagnitude at h
  split at h
  · cases h
  split at h
  · cases h
  dsimp only at h
  split at h
  · exact representable_of_parseMantissa h
  · obtain ⟨_, -, hmantissa⟩ := Option.bind_eq_some_iff.mp h
    exact representable_of_parseMantissa hmantissa

theorem representable_of_parse (h : parse s = some (.finite v)) : Representable v := by
  unfold parse at h
  split at h
  · obtain ⟨x, hx, hneg⟩ := Option.map_eq_some_iff.mp h
    cases x with
    | nan => cases hneg
    | infinite => cases hneg
    | finite =>
      cases hneg
      exact (representable_of_parseMagnitude hx).neg
  · exact representable_of_parseMagnitude h
  · exact representable_of_parseMagnitude h

/-- **A text that is read as an unsigned number** is read as the same number here. -/
theorem parse_of_parseInt (h : parseInt max s = .ok n) (hsmall : n < 2 ^ 53) : parse s = some (.finite n) := by
  unfold parseInt at h
  split at h
  · cases h
  · cases h
  · exact parseMagnitude_of_digits h (cons_ne_nil _ _) hsmall
  next c cs hplus _ =>
    have hdigit := isDigit_of_parseDigits h c mem_cons_self
    have hread := parseMagnitude_of_digits h (cons_ne_nil _ _) hsmall
    unfold parse
    split
    next heq =>
      cases heq
      exact absurd hdigit (by decide)
    next heq =>
      cases heq
      exact absurd hdigit (by decide)
    · exact hread

end Binary64
