import A3sBox.Library.Text

/-!
# IPv4 addresses

An address is a 32-bit number, written as its four octets in decimal with dots
between them. The parser is strict: exactly four parts, each of one to three
digits, at most 255 and without a leading zero. Reading what was written gives
the address back (`parse_toText`).
-/

open Text

/-- An IPv4 address. -/
structure Ipv4Addr where
  bits : UInt32
  deriving DecidableEq, Repr

namespace Ipv4Addr

/-- The address as a natural number. -/
def toNat (ip : Ipv4Addr) : ℕ := ip.bits.toNat

theorem toNat_lt (ip : Ipv4Addr) : ip.toNat < 2 ^ 32 := ip.bits.toNat_lt

variable {ip ip' : Ipv4Addr}

theorem toNat_injective (h : ip.toNat = ip'.toNat) : ip = ip' := by
  exact congrArg mk (UInt32.toNat_inj.mp h)

/-- The four octets, the first one the most significant. -/
def octets (ip : Ipv4Addr) : ℕ × ℕ × ℕ × ℕ :=
  (ip.toNat / 2 ^ 24, ip.toNat / 2 ^ 16 % 256, ip.toNat / 2 ^ 8 % 256, ip.toNat % 256)

/-- The address of four octets. -/
def ofOctets (a b c d : ℕ) : Ipv4Addr := ⟨UInt32.ofNat (a * 2 ^ 24 + b * 2 ^ 16 + c * 2 ^ 8 + d)⟩

theorem ofOctets_octets (ip) : ofOctets ip.octets.1 ip.octets.2.1 ip.octets.2.2.1 ip.octets.2.2.2 = ip := by
  apply toNat_injective
  have h := ip.toNat_lt
  simp only [octets, ofOctets, toNat, UInt32.toNat_ofNat'] at h ⊢
  omega

theorem octets_le (ip : Ipv4Addr) :
    ip.octets.1 ≤ 255 ∧ ip.octets.2.1 ≤ 255 ∧ ip.octets.2.2.1 ≤ 255 ∧ ip.octets.2.2.2 ≤ 255 := by
  have h := ip.toNat_lt
  simp only [octets]
  omega

theorem octets_injective (h : ip.octets = ip'.octets) : ip = ip' := by
  rw [← ofOctets_octets ip, ← ofOctets_octets ip', h]

/-! ### Text -/

/-- The dotted decimal form. -/
def toText (ip : Ipv4Addr) : List Char :=
  let (a, b, c, d) := ip.octets
  ['.'].intercalate [showNat a, showNat b, showNat c, showNat d]

/-- One octet: one to three digits, at most 255, and no leading zero. -/
def parseOctet (s : List Char) : Option ℕ :=
  if s = [] ∨ 3 < s.length ∨ (s.head? = some '0' ∧ s ≠ ['0']) then none
  else (parseDigits 255 0 s).toOption

/-- The address written in `s`, if it is one. -/
def parse (s : List Char) : Option Ipv4Addr :=
  match s.splitOn '.' with
  | [a, b, c, d] =>
    match parseOctet a, parseOctet b, parseOctet c, parseOctet d with
    | some a, some b, some c, some d => some (ofOctets a b c d)
    | _, _, _, _ => none
  | _ => none

theorem parseOctet_showNat {n} (h : n ≤ 255) : parseOctet (showNat n) = some n := by
  have hshape : ∀ n ≤ 255, ¬ (showNat n = [] ∨ 3 < (showNat n).length ∨
      ((showNat n).head? = some '0' ∧ showNat n ≠ ['0'])) := by
    decide +kernel
  unfold parseOctet
  rw [if_neg (hshape n h), parseDigits_showNat h]
  rfl

/-- **Reading what was written** gives the address back. -/
theorem parse_toText (ip : Ipv4Addr) : parse ip.toText = some ip := by
  obtain ⟨ha, hb, hc, hd⟩ := ip.octets_le
  have hsplit : (ip.toText).splitOn '.' = [showNat ip.octets.1, showNat ip.octets.2.1,
      showNat ip.octets.2.2.1, showNat ip.octets.2.2.2] := by
    apply List.splitOn_intercalate
    · intro l hl
      simp only [List.mem_cons, List.not_mem_nil, or_false] at hl
      rcases hl with rfl | rfl | rfl | rfl <;> exact not_mem_showNat rfl
    · simp
  unfold parse
  simp [hsplit, parseOctet_showNat ha, parseOctet_showNat hb, parseOctet_showNat hc, parseOctet_showNat hd,
    ofOctets_octets]

/-- A character that is neither a digit nor a dot does not occur in an address. -/
theorem not_mem_toText {x} (hd : x.isDigit = false) (hdot : x ≠ '.') : x ∉ ip.toText := by
  have h : ∀ n, x ∉ showNat n := fun n => not_mem_showNat hd
  simp [toText, h, hdot]

end Ipv4Addr
