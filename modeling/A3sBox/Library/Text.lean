import Mathlib.Data.List.Basic
import Mathlib.Data.List.DropRight
import Mathlib.Tactic.IntervalCases

/-!
# Text

What the standard library of the source language does to text, over lists of characters: trimming, and reading and
writing decimal numbers. `parseInt` reads one optional `+` and at least one digit, and looks for an overflow at every
digit. `parseInt_showNat`: what was written is read back.
-/

namespace Text

open List

/-! ### Characters -/

/-- The characters with the Unicode property `White_Space`. -/
def isWhitespace (c : Char) : Bool :=
  let n := c.toNat
  (9 ≤ n && n ≤ 13) || n == 32 || n == 0x85 || n == 0xA0 || n == 0x1680 ||
    (0x2000 ≤ n && n ≤ 0x200A) || n == 0x2028 || n == 0x2029 || n == 0x202F || n == 0x205F || n == 0x3000

/-- The text without white space at either end. -/
def trim (s : List Char) : List Char :=
  ((s.dropWhile isWhitespace).reverse.dropWhile isWhitespace).reverse

variable {s : List Char} {max acc n : ℕ} {a b : UInt8} {l : List UInt8}

theorem trim_eq_self_of_ends (hhead : ∀ c ∈ s.head?, isWhitespace c = false)
    (hlast : ∀ c ∈ s.getLast?, isWhitespace c = false) : trim s = s := by
  have hdrop : ∀ t : List Char, (∀ c ∈ t.head?, isWhitespace c = false) → t.dropWhile isWhitespace = t := by
    intro t ht
    cases t with
    | nil => rfl
    | cons c => simp [ht c rfl]
  rw [trim, hdrop s hhead, hdrop, reverse_reverse]
  rwa [List.head?_reverse]

/-- Text without any white space is left as it is. -/
theorem trim_eq_self (h : ∀ c ∈ s, isWhitespace c = false) : trim s = s :=
  trim_eq_self_of_ends (fun c hc => h c (mem_of_mem_head? hc)) fun c hc => h c (mem_of_mem_getLast? hc)

theorem head_trim (s) : ∀ c ∈ (trim s).head?, isWhitespace c = false := by
  intro c hc
  -- trimmed text begins as the text without white space at its beginning
  obtain ⟨rest, hrest⟩ : trim s <+: s.dropWhile isWhitespace := by
    have hsuffix := dropWhile_suffix (l := (s.dropWhile isWhitespace).reverse) isWhitespace
    rwa [← reverse_prefix, reverse_reverse] at hsuffix
  have hhead := List.head?_dropWhile_not isWhitespace s
  rw [← hrest, List.head?_append, Option.mem_def.mp hc] at hhead
  exact hhead

theorem getLast_trim (s) : ∀ c ∈ (trim s).getLast?, isWhitespace c = false := by
  intro c hc
  rw [trim, List.getLast?_reverse] at hc
  have hhead := List.head?_dropWhile_not isWhitespace (s.dropWhile isWhitespace).reverse
  rw [hc] at hhead
  exact hhead

theorem trim_trim (s) : trim (trim s) = trim s := trim_eq_self_of_ends (head_trim s) (getLast_trim s)

/-- Lower case, for the letters `A` to `Z` only. -/
def toAsciiLower (c : Char) : Char := if 'A' ≤ c ∧ c ≤ 'Z' then Char.ofNat (c.toNat + 32) else c

/-- Equality up to the case of the letters `A` to `Z`. -/
def eqIgnoreAsciiCase (s t : List Char) : Bool := s.map toAsciiLower == t.map toAsciiLower

/-- The value of a decimal digit. -/
def digit? (c : Char) : Option ℕ := if c.isDigit then some (c.toNat - '0'.toNat) else none

theorem digit?_digitChar {d} (h : d < 10) : digit? d.digitChar = some d := by
  interval_cases d <;> rfl

/-! ### Decimal numbers -/

/-- Why a number could not be read. -/
inductive ParseIntError where
  | empty
  | invalidDigit
  /-- The number does not fit the type. -/
  | posOverflow
  deriving DecidableEq, Repr

/-- The text of an error. -/
def ParseIntError.message : ParseIntError → String
  | .empty => "cannot parse integer from empty string"
  | .invalidDigit => "invalid digit found in string"
  | .posOverflow => "number too large to fit in target type"

/-- Read digits onto `acc`, for a type whose largest value is `max`. -/
def parseDigits (max : ℕ) : ℕ → List Char → Except ParseIntError ℕ
  | acc, [] => .ok acc
  | acc, c :: cs =>
    match digit? c with
    | none => .error .invalidDigit
    | some d => if acc * 10 + d ≤ max then parseDigits max (acc * 10 + d) cs else .error .posOverflow

/-- Read an unsigned number, for a type whose largest value is `max`. -/
def parseInt (max : ℕ) : List Char → Except ParseIntError ℕ
  | [] => .error .empty
  | ['+'] => .error .invalidDigit
  | '+' :: c :: cs => parseDigits max 0 (c :: cs)
  | c :: cs => parseDigits max 0 (c :: cs)

/-- Write a number in decimal. -/
def showNat (n : ℕ) : List Char := Nat.toDigits 10 n

theorem parseDigits_le (hacc : acc ≤ max) (h : parseDigits max acc s = .ok n) : n ≤ max := by
  induction s generalizing acc with
  | nil =>
    cases h
    exact hacc
  | cons _ _ ih =>
    rw [parseDigits] at h
    split at h
    · cases h
    · split_ifs at h with hle
      exact ih hle h

/-- A number that was read fits the type. -/
theorem parseInt_le (h : parseInt max s = .ok n) : n ≤ max := by
  unfold parseInt at h
  split at h
  · cases h
  · cases h
  · exact parseDigits_le (Nat.zero_le max) h
  · exact parseDigits_le (Nat.zero_le max) h

theorem isDigit_of_parseDigits (h : parseDigits max acc s = .ok n) : ∀ c ∈ s, c.isDigit = true := by
  induction s generalizing acc with
  | nil => exact forall_mem_nil _
  | cons c _ ih =>
    rw [parseDigits] at h
    split at h
    · cases h
    next d hd =>
      split_ifs at h
      have hc : c.isDigit = true := by
        by_contra hnot
        simp [digit?, hnot] at hd
      exact forall_mem_cons.mpr ⟨hc, ih h⟩

variable {max' m : ℕ} {c : Char}

theorem parseDigits_mono (hmax : max ≤ max') (h : parseDigits max acc s = .ok n) : parseDigits max' acc s = .ok n := by
  induction s generalizing acc with
  | nil => exact h
  | cons _ _ ih =>
    rw [parseDigits] at h ⊢
    split at h
    · cases h
    · split_ifs at h with hle
      rw [if_pos (Nat.le_trans hle hmax)]
      exact ih h

/-- A number that fits a type fits a larger one. -/
theorem parseInt_mono (hmax : max ≤ max') (h : parseInt max s = .ok n) : parseInt max' s = .ok n := by
  unfold parseInt at h ⊢
  split at h
  · cases h
  · cases h
  · exact parseDigits_mono hmax h
  · exact parseDigits_mono hmax h

theorem parseInt_last (h : parseInt max s = .ok n) : ∃ front d, s = front ++ [d] ∧ d.isDigit = true := by
  have hlast : ∃ c cs front, s = front ++ c :: cs ∧ ∀ d ∈ c :: cs, d.isDigit = true := by
    unfold parseInt at h
    split at h
    · cases h
    · cases h
    next c cs => exact ⟨c, cs, ['+'], rfl, isDigit_of_parseDigits h⟩
    next c cs _ _ => exact ⟨c, cs, [], rfl, isDigit_of_parseDigits h⟩
  obtain ⟨c, cs, front, rfl, hdigits⟩ := hlast
  refine ⟨front ++ (c :: cs).dropLast, (c :: cs).getLast (by simp), ?_, hdigits _ (getLast_mem _)⟩
  rw [append_assoc, dropLast_append_getLast]

theorem parseDigits_append (max acc) (l₁ l₂ : List Char) :
    parseDigits max acc (l₁ ++ l₂) = (parseDigits max acc l₁).bind fun n => parseDigits max n l₂ := by
  induction l₁ generalizing acc with
  | nil => rfl
  | cons c _ ih =>
    simp only [cons_append, parseDigits]
    cases digit? c with
    | none => rfl
    | some d =>
      by_cases h : acc * 10 + d ≤ max
      · simp only [h]
        exact ih _
      · simp only [h]
        rfl

/-- Reading digits from `0` gives back what was written, if it fits. -/
theorem parseDigits_showNat (h : n ≤ max) : parseDigits max 0 (showNat n) = .ok n := by
  induction n using Nat.strong_induction_on with
  | _ n ih =>
    unfold showNat
    rcases Nat.lt_or_ge n 10 with hlt | hge
    · rw [Nat.toDigits_of_lt_base hlt]
      simp [parseDigits, digit?_digitChar hlt, h]
    · -- the last digit is read onto the number before it
      have hq : n / 10 < n := Nat.div_lt_self (by omega) (by omega)
      have hd : n % 10 < 10 := Nat.mod_lt _ (by omega)
      have hn : n / 10 * 10 + n % 10 = n := by omega
      rw [Nat.toDigits_of_base_le (by omega) hge, parseDigits_append]
      have := ih (n / 10) hq (by omega)
      rw [showNat] at this
      rw [this]
      simp [Except.bind, parseDigits, digit?_digitChar hd, hn, h]

theorem showNat_ne_nil (n) : showNat n ≠ [] := by
  unfold showNat
  rw [Nat.toDigits_eq_if (by omega)]
  split <;> simp

theorem isDigit_of_mem_showNat (h : c ∈ showNat n) : c.isDigit := Nat.isDigit_of_mem_toDigits (by omega) (by omega) h

theorem isWhitespace_of_mem_showNat (h : c ∈ showNat n) : isWhitespace c = false := by
  have hc : 48 ≤ c.toNat ∧ c.toNat ≤ 57 := by
    simpa [Char.isDigit, UInt32.le_iff_toNat_le] using isDigit_of_mem_showNat h
  unfold isWhitespace
  simp only [Bool.or_eq_false_iff, Bool.and_eq_false_iff, decide_eq_false_iff_not, beq_eq_false_iff_ne]
  omega

/-- No character that is not a digit occurs in a written number. -/
theorem not_mem_showNat (h : c.isDigit = false) : c ∉ showNat n := by
  intro hc
  rw [isDigit_of_mem_showNat hc] at h
  exact Bool.noConfusion h

/-- **Reading what was written** gives the number back, if it fits the type. -/
theorem parseInt_showNat (h : n ≤ max) : parseInt max (showNat n) = .ok n := by
  have hp := parseDigits_showNat h
  have hplus : ('+' : Char) ∉ showNat n := not_mem_showNat rfl
  cases hs : showNat n with
  | nil => exact absurd hs (showNat_ne_nil n)
  | cons c =>
    rw [hs] at hp hplus
    have hc : c ≠ '+' := fun e => hplus (by rw [e]; exact mem_cons_self ..)
    rw [parseInt]
    · exact hp
    · simp_all
    · simp_all

/-! ### Hexadecimal digits -/

/-- An octet as two hexadecimal digits. -/
def hex2 (n : ℕ) : List Char := [(n / 16).digitChar, (n % 16).digitChar]

theorem digitChar_injective (hm : m < 16) (hn : n < 16) (h : m.digitChar = n.digitChar) : m = n := by
  have hall : ∀ m < 16, ∀ n < 16, m.digitChar = n.digitChar → m = n := by decide
  exact hall m hm n hn h

theorem hex2_injective (hm : m ≤ 255) (hn : n ≤ 255) (h : hex2 m = hex2 n) : m = n := by
  simp only [hex2, cons.injEq, and_true] at h
  have h1 := digitChar_injective (by omega) (by omega) h.1
  have h2 := digitChar_injective (by omega) (by omega) h.2
  omega

/-- Bytes as hexadecimal digits. -/
def hexEncode (bytes : List UInt8) : String := String.ofList (bytes.flatMap fun b => hex2 b.toNat)

theorem mem_hex2 (b : UInt8) : ∀ c ∈ hex2 b.toNat, c ∈ "0123456789abcdef".toList := by
  have hdigit : ∀ m < 16, m.digitChar ∈ "0123456789abcdef".toList := by decide
  have hb := b.toNat_lt
  intro c hc
  rcases mem_pair.1 hc with rfl | rfl
  · exact hdigit _ (by omega)
  · exact hdigit _ (by omega)

theorem flatMap_hex2_injective {a b : List UInt8}
    (h : (a.flatMap fun b => hex2 b.toNat) = b.flatMap fun b => hex2 b.toNat) : a = b := by
  induction a generalizing b with
  | nil =>
    cases b with
    | nil => rfl
    | cons => simp [hex2] at h
  | cons x _ ih =>
    cases b with
    | nil => simp [hex2] at h
    | cons y =>
      obtain ⟨hhead, htail⟩ := append_inj h rfl
      have hx : x.toNat ≤ 255 := Nat.le_of_lt_succ x.toNat_lt
      have hy : y.toNat ≤ 255 := Nat.le_of_lt_succ y.toNat_lt
      rw [UInt8.toNat_inj.1 (hex2_injective hx hy hhead), ih htail]

/-- A number in hexadecimal, with its `0x`. -/
def showHex (n : ℕ) : String := "0x" ++ String.ofList (Nat.toDigits 16 n)

/-! ### Bytes -/

/-- The bytes of a text. -/
def utf8 (s : String) : List UInt8 := s.toByteArray.data.toList

/-- A byte that continues a character. -/
def isContinuation (b : UInt8) : Bool := 0x80 ≤ b && b ≤ 0xBF

/-- Whether the first two bytes of a character of three bytes are allowed together. -/
def isLead3 (a b : UInt8) : Bool :=
  if a = 0xE0 then 0xA0 ≤ b && b ≤ 0xBF else if a = 0xED then 0x80 ≤ b && b ≤ 0x9F
  else 0xE1 ≤ a && a ≤ 0xEF && isContinuation b

/-- Whether the first two bytes of a character of four bytes are allowed together. -/
def isLead4 (a b : UInt8) : Bool :=
  if a = 0xF0 then 0x90 ≤ b && b ≤ 0xBF else if a = 0xF4 then 0x80 ≤ b && b ≤ 0x8F
  else 0xF1 ≤ a && a ≤ 0xF3 && isContinuation b

/-- Whether bytes are the bytes of a text. -/
def isUtf8 : List UInt8 → Bool
  | [] => true
  | [a] => a < 0x80
  | a :: b :: rest =>
    if a < 0x80 then isUtf8 (b :: rest)
    else if 0xC2 ≤ a && a ≤ 0xDF then isContinuation b && isUtf8 rest
    else
      match rest with
      | [] => false
      | c :: rest =>
        if isLead3 a b then isContinuation c && isUtf8 rest
        else
          match rest with
          | [] => false
          | d :: rest => isLead4 a b && isContinuation c && isContinuation d && isUtf8 rest

/-- U+FFFD. -/
def replacementBytes : List UInt8 := [0xEF, 0xBF, 0xBD]

/-- Bytes as text: what is no character becomes U+FFFD, one for each longest beginning of a character or other byte. -/
def utf8Lossy : List UInt8 → List UInt8
  | [] => []
  | [a] => if a < 0x80 then [a] else replacementBytes
  | a :: b :: rest =>
    if a < 0x80 then a :: utf8Lossy (b :: rest)
    else if 0xC2 ≤ a && a ≤ 0xDF then
      if isContinuation b then a :: b :: utf8Lossy rest else replacementBytes ++ utf8Lossy (b :: rest)
    else if isLead3 a b then
      match rest with
      | [] => replacementBytes
      | c :: rest =>
        if isContinuation c then a :: b :: c :: utf8Lossy rest else replacementBytes ++ utf8Lossy (c :: rest)
    else if isLead4 a b then
      match rest with
      | [] => replacementBytes
      | [c] => if isContinuation c then replacementBytes else replacementBytes ++ utf8Lossy [c]
      | c :: d :: rest =>
        if isContinuation c then
          if isContinuation d then a :: b :: c :: d :: utf8Lossy rest else replacementBytes ++ utf8Lossy (d :: rest)
        else replacementBytes ++ utf8Lossy (c :: d :: rest)
    else replacementBytes ++ utf8Lossy (b :: rest)

/-- The first `n` bytes of a text, unless they end inside a character. -/
def bytePrefix : ℕ → List Char → Option (List Char)
  | 0, _ => some []
  | _ + 1, [] => none
  | n + 1, c :: cs => if c.utf8Size ≤ n + 1 then (bytePrefix (n + 1 - c.utf8Size) cs).map (c :: ·) else none

theorem utf8_injective {s t} (h : utf8 s = utf8 t) : s = t := by
  apply String.toByteArray_inj.1
  apply ByteArray.ext
  exact Array.toList_inj.1 h

theorem isUtf8_one (h : a < 0x80) : isUtf8 (a :: l) = isUtf8 l := by
  cases l with
  | nil => simpa [isUtf8.eq_def [a], isUtf8.eq_def []] using h
  | cons b l => simp [isUtf8.eq_def (a :: b :: l), h]

theorem isUtf8_two (h : (0xC2 ≤ a && a ≤ 0xDF) = true) (hb : isContinuation b = true) :
    isUtf8 (a :: b :: l) = isUtf8 l := by
  have ha : ¬ a < 0x80 := by grind
  rw [isUtf8.eq_def]
  simp [ha, h, hb]

theorem isLead3_lead (h : isLead3 a b = true) : 0xE0 ≤ a := by
  grind [isLead3]

theorem isLead4_lead (h : isLead4 a b = true) : 0xF0 ≤ a := by
  grind [isLead4]

theorem isUtf8_three {c} (h : isLead3 a b = true) (hc : isContinuation c = true) :
    isUtf8 (a :: b :: c :: l) = isUtf8 l := by
  have hlead := isLead3_lead h
  have ha : ¬ a < 0x80 := by grind
  have ha' : ¬ (0xC2 ≤ a && a ≤ 0xDF) = true := by grind
  rw [isUtf8.eq_def]
  simp [ha, ha', h, hc]

theorem isUtf8_four {c d} (h : isLead4 a b = true) (hc : isContinuation c = true) (hd : isContinuation d = true)
    : isUtf8 (a :: b :: c :: d :: l) = isUtf8 l := by
  have hlead := isLead4_lead h
  have ha : ¬ a < 0x80 := by grind
  have ha' : ¬ (0xC2 ≤ a && a ≤ 0xDF) = true := by grind
  have h3 : isLead3 a b = false := by grind [isLead3]
  rw [isUtf8.eq_def]
  simp [ha, ha', h, h3, hc, hd]

theorem isUtf8_replacement (l) : isUtf8 (replacementBytes ++ l) = isUtf8 l := isUtf8_three (by decide) (by decide)

theorem isUtf8_utf8Lossy (l) : isUtf8 (utf8Lossy l) = true := by
  have hr : isUtf8 replacementBytes = true := by decide
  fun_induction utf8Lossy l with
  | case1 => rfl
  | case2 a h => simpa [isUtf8] using h
  | case3 a h => exact hr
  | case4 a b rest h ih => rwa [isUtf8_one h]
  | case5 a b rest _ h hb ih => rwa [isUtf8_two h hb]
  | case8 a b _ _ h c rest hc ih => rwa [isUtf8_three h hc]
  | case13 a b _ _ _ h c d rest hc hd ih => rwa [isUtf8_four h hc hd]
  | case7 | case10 | case11 => exact hr
  | _ => rwa [isUtf8_replacement]

theorem utf8Lossy_eq_self (h : isUtf8 l = true) : utf8Lossy l = l := by
  fun_induction utf8Lossy l with
  | case1 => rfl
  | case2 a _ => rfl
  | case3 a ha => simp [isUtf8, ha] at h
  | case4 a b rest ha ih =>
    rw [isUtf8_one ha] at h
    rw [ih h]
  | case5 a b rest _ ha hb ih =>
    rw [isUtf8_two ha hb] at h
    rw [ih h]
  | case8 a b _ _ ha c rest hc ih =>
    rw [isUtf8_three ha hc] at h
    rw [ih h]
  | case13 a b _ _ _ ha c d rest hc hd ih =>
    rw [isUtf8_four ha hc hd] at h
    rw [ih h]
  | _ =>
    rw [isUtf8.eq_def] at h
    grind

theorem isUtf8_append_ascii {s} (h : ∀ a ∈ s, a < 0x80) : isUtf8 (s ++ l) = isUtf8 l := by
  induction s with
  | nil => rfl
  | cons a _ ih =>
    rw [cons_append, isUtf8_one (h a (by simp))]
    exact ih fun b hb => h b (by simp [hb])

/-- Where only characters of one byte come out, nothing was replaced. -/
theorem eq_utf8Lossy_of_ascii (h : ∀ b ∈ utf8Lossy l, b < 0x80) : l = utf8Lossy l := by
  have hr : ¬ ∀ b ∈ replacementBytes, b < 0x80 := by decide +kernel
  have hr' : ∀ t, ¬ ∀ b ∈ replacementBytes ++ t, b < 0x80 := fun t ht => hr fun b hb => ht b (by simp [hb])
  fun_induction utf8Lossy l with
  | case1 => rfl
  | case2 => rfl
  | case4 a b rest _ ih | case5 a b rest _ _ _ ih => rw [← ih fun c hc => h c (by simp [hc])]
  | case8 a b _ _ _ c rest _ ih => rw [← ih fun d hd => h d (by simp [hd])]
  | case13 a b _ _ _ _ c d rest _ _ ih => rw [← ih fun e he => h e (by simp [he])]
  | case3 | case7 | case10 | case11 => exact absurd h hr
  | _ => exact absurd h (hr' _)

/-- Where a separator is missing in two beginnings, it tells where they end. -/
theorem append_cons_inj {α : Type} {c : α} {a a' b b' : List α} (ha : c ∉ a) (ha' : c ∉ a')
    (h : a ++ c :: b = a' ++ c :: b') : a = a' ∧ b = b' := by
  rcases append_eq_append_iff.mp h with ⟨more, rfl, hb⟩ | ⟨more, rfl, hb⟩
  · cases more with
    | nil => exact ⟨(append_nil a).symm, (cons.inj hb).2⟩
    | cons => simp [(cons.inj hb).1] at ha'
  · cases more with
    | nil => exact ⟨append_nil a', (cons.inj hb).2.symm⟩
    | cons => simp [(cons.inj hb).1] at ha

theorem utf8_append (s t : String) : utf8 (s ++ t) = utf8 s ++ utf8 t := by simp [utf8]

end Text
