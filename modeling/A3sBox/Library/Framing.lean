import Mathlib.Algebra.GroupWithZero.Nat
import Mathlib.Data.List.Basic

/-!
# Frames on a byte stream

A reader takes frames off the front of a stream until it meets its end or an error. What a `Reader` takes is not
empty, so reading all frames ends (`readAll`). `readExact` is the loop of `std::io::Read::read_exact`. Where every
frame is read back from the front of its own bytes, frames are read back in order (`readAll_flatMap`).
-/

namespace Framing

/-! ### Numbers -/

/-- A number in bytes, the highest first. -/
def toBeBytes : ℕ → ℕ → List UInt8
  | 0, _ => []
  | width + 1, n => toBeBytes width (n / 256) ++ [UInt8.ofNat n]

/-- The number that bytes stand for, the highest first. -/
def fromBeBytes (bytes : List UInt8) : ℕ := bytes.foldl (fun n b => 256 * n + b.toNat) 0

@[simp]
theorem length_toBeBytes (width n : ℕ) : (toBeBytes width n).length = width := by
  induction width generalizing n with
  | zero => rfl
  | succ _ ih => simp [toBeBytes, ih]

theorem fromBeBytes_toBeBytes (width n : ℕ) : fromBeBytes (toBeBytes width n) = n % 256 ^ width := by
  induction width generalizing n with
  | zero => simp [toBeBytes, fromBeBytes, Nat.mod_one]
  | succ width ih =>
    have hlow : (UInt8.ofNat n).toNat = n % 256 := by simp
    have hhigh : fromBeBytes (toBeBytes width (n / 256)) = n / 256 % 256 ^ width := ih (n / 256)
    calc fromBeBytes (toBeBytes (width + 1) n)
        = 256 * fromBeBytes (toBeBytes width (n / 256)) + (UInt8.ofNat n).toNat := by
          simp [toBeBytes, fromBeBytes]
      _ = 256 * (n / 256 % 256 ^ width) + n % 256 := by rw [hhigh, hlow]
      _ = n % 256 ^ (width + 1) := by rw [Nat.pow_succ, Nat.mul_comm (256 ^ width), Nat.mod_mul, Nat.add_comm]

/-! ### Readers -/

/-- Take exactly `n` bytes, or nothing if there are fewer. -/
def readExact (n : ℕ) (bytes : List UInt8) : Option (List UInt8 × List UInt8) :=
  if bytes.length < n then none else some (bytes.take n, bytes.drop n)

variable {n : ℕ} {bytes : List UInt8}

variable {front rest : List UInt8}

theorem readExact_append (h : front.length = n) (rest) :
    readExact n (front ++ rest) = some (front, rest) := by
  subst h
  simp [readExact]

theorem readExact_eq_none : readExact n bytes = none ↔ bytes.length < n := by
  simp [readExact]

theorem readExact_eq_some (h : readExact n bytes = some (front, rest)) : bytes = front ++ rest ∧ front.length = n := by
  rw [readExact] at h
  split_ifs at h with hlt
  obtain ⟨rfl, rfl⟩ := h
  exact ⟨(List.take_append_drop n bytes).symm, by simp; omega⟩

/-- A reader of frames. -/
structure Reader (α E : Type) where
  /-- Read one frame: none at the end of the stream, and else the frame and what follows it. -/
  read : List UInt8 → Except E (Option (α × List UInt8))
  shorter : ∀ {bytes a rest}, read bytes = .ok (some (a, rest)) → rest.length < bytes.length

/-- How reading ends. -/
inductive End (E : Type) where
  | clean
  | error (e : E)
  deriving DecidableEq, Repr

variable {α E : Type} (reader : Reader α E)

/-- Read all frames of a stream. -/
def Reader.readAll (bytes : List UInt8) : List α × End E :=
  match _h : reader.read bytes with
  | .error e => ([], .error e)
  | .ok none => ([], .clean)
  | .ok (some (a, rest)) => (a :: (Reader.readAll rest).1, (Reader.readAll rest).2)
termination_by bytes.length
decreasing_by all_goals exact reader.shorter _h

variable {reader}

theorem readAll_error {e} (h : reader.read bytes = .error e) : reader.readAll bytes = ([], .error e) := by
  rw [Reader.readAll]
  split <;> simp_all

theorem readAll_none (h : reader.read bytes = .ok none) : reader.readAll bytes = ([], .clean) := by
  rw [Reader.readAll]
  split <;> simp_all

theorem readAll_some {a} (h : reader.read bytes = .ok (some (a, rest))) :
    reader.readAll bytes = (a :: (reader.readAll rest).1, (reader.readAll rest).2) := by
  rw [Reader.readAll]
  split <;> simp_all

/-- **Frames are read back in order.** What follows them is read as on its own. -/
theorem readAll_flatMap {write frames}
    (h : ∀ a ∈ frames, ∀ rest, reader.read (write a ++ rest) = .ok (some (a, rest))) (rest) :
    reader.readAll (frames.flatMap write ++ rest) =
      (frames ++ (reader.readAll rest).1, (reader.readAll rest).2) := by
  induction frames with
  | nil => rfl
  | cons a _ ih =>
    rw [List.flatMap_cons, List.append_assoc, readAll_some (h a (by simp) _), ih fun b hb => h b (by simp [hb])]
    rfl

end Framing
