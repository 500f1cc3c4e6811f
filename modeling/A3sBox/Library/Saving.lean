import Mathlib.Data.Nat.Notation
import Mathlib.Tactic.Cases

/-!
# Saving a value to a file, by several savers at once

A value is changed under a lock, and then saved: it is read under the lock, written to a temporary file that all
share, and that is renamed. Each is a step. A snapshot carries the number of changes made before it, which the
programs do not have.

`Inv.file_eq`: if no older snapshot is written over a newer one (`InOrder`), then once no saver is left the file holds
the value in memory. So it is with savers that replace the file at once (`Inv.replace`).
-/

namespace Saving

variable {α : Type}

/-- A copy of the value, and how many changes were made before it was taken. -/
structure Snapshot (α : Type) where
  version : ℕ
  value : α

/-- What the savers share: the value in memory and the two files. -/
structure Memory (α : Type) where
  /-- The value in memory, and how often it was changed. -/
  current : Snapshot α
  tmp : Option (Snapshot α)
  file : Snapshot α

/-- What a saver does next. -/
inductive Phase (α : Type) where
  | read
  /-- Write what was read to the temporary file. -/
  | write (taken : Snapshot α)
  | rename

/-- A value that is saved. -/
def Memory.init (value : α) : Memory α := ⟨⟨0, value⟩, none, ⟨0, value⟩⟩

/-- The value changes. -/
def Memory.change (m : Memory α) (value : α) : Memory α :=
  { m with current := ⟨m.current.version + 1, value⟩ }

/-- One step of a saver, and what it does next. A rename fails if another has renamed the temporary file. -/
def Memory.save (m : Memory α) : Phase α → Memory α × Option (Phase α)
  | .read => (m, some (.write m.current))
  | .write taken => ({ m with tmp := some taken }, some .rename)
  | .rename =>
    match m.tmp with
    | none => (m, none)
    | some taken => ({ m with tmp := none, file := taken }, none)

/-- The step does not write an older snapshot over a newer one. -/
def InOrder (m : Memory α) : Phase α → Prop
  | .read => True
  | .write taken => ∀ old, m.tmp = some old → old.version ≤ taken.version
  | .rename => ∀ taken, m.tmp = some taken → m.file.version ≤ taken.version

/-- A snapshot that may be somewhere: not newer than the value, and equal to it if it is as new. -/
def Fresh (m : Memory α) (s : Snapshot α) : Prop :=
  s.version ≤ m.current.version ∧ (s.version = m.current.version → s.value = m.current.value)

/-- What the steps preserve, when `active` are the phases the savers are in. -/
structure Inv (m : Memory α) (active : Phase α → Prop) : Prop where
  file : Fresh m m.file
  tmp : ∀ s, m.tmp = some s → Fresh m s
  taken : ∀ s, active (.write s) → Fresh m s
  /-- Whoever has written the temporary file is still there to rename it. -/
  writer : ∀ s, m.tmp = some s → active .rename
  covered : m.file.version = m.current.version ∨ (∃ s, m.tmp = some s ∧ s.version = m.current.version) ∨
    active .read ∨ ∃ s, active (.write s) ∧ s.version = m.current.version

theorem Inv.init (value : α) {active} (h : ∀ p, ¬ active p) : Inv (Memory.init value) active where
  file := ⟨Nat.le_refl _, fun _ => rfl⟩
  tmp s hs := by simp [Memory.init] at hs
  taken s hs := absurd hs (h _)
  writer s hs := by simp [Memory.init] at hs
  covered := .inl rfl

variable {m : Memory α} {active active' : Phase α → Prop}

theorem Fresh.change {s} (h : Fresh m s) (value : α) : Fresh (m.change value) s := by
  have hle := h.1
  constructor
  · show s.version ≤ m.current.version + 1
    omega
  · intro heq
    have : s.version = m.current.version + 1 := heq
    omega

/-- When a saver goes on, a version is still to be saved by another, unless it had taken that version itself. -/
theorem savers_kept {p v} (hkept : ∀ q, active q → q ≠ p → active' q) (hread : p ≠ .read)
    (hwrite : ∀ s, p = .write s → s.version ≠ v) (h : active .read ∨ ∃ s, active (.write s) ∧ s.version = v) :
    active' .read ∨ ∃ s, active' (.write s) ∧ s.version = v := by
  rcases h with h | ⟨s, hs, hv⟩
  · exact .inl (hkept _ h hread.symm)
  · exact .inr ⟨s, hkept _ hs fun heq => hwrite s heq.symm hv, hv⟩

section

variable (hinv : Inv m active)
include hinv

theorem Inv.change (value : α) (hkept : ∀ p, active p → active' p)
    (hnew : ∀ p, active' p → active p ∨ p = .read) (hread : active' .read) : Inv (m.change value) active' where
  file := hinv.file.change value
  tmp s hs := (hinv.tmp s hs).change value
  taken s hs := by
    rcases hnew _ hs with hs | hs
    · exact (hinv.taken s hs).change value
    · exact absurd hs (by simp)
  writer s hs := hkept _ (hinv.writer s hs)
  covered := .inr (.inr (.inl hread))

theorem Inv.save {p} (hp : active p) (horder : InOrder m p)
    (hkept : ∀ q, active q → q ≠ p → active' q) (hnew : ∀ q, active' q → active q ∨ (m.save p).2 = some q)
    (hnext : ∀ q, (m.save p).2 = some q → active' q) : Inv (m.save p).1 active' := by
  cases p with
  | read =>
    have hwrite : active' (.write m.current) := hnext _ rfl
    refine ⟨hinv.file, hinv.tmp, fun s hs => ?_, fun s hs => hkept _ (hinv.writer s hs) (by simp), ?_⟩
    · rcases hnew _ hs with hs | hs
      · exact hinv.taken s hs
      · obtain rfl : m.current = s := by simpa [Memory.save] using hs
        exact ⟨Nat.le_refl _, fun _ => rfl⟩
    · exact .inr (.inr (.inr ⟨m.current, hwrite, rfl⟩))
  | write taken =>
    have hrename : active' .rename := hnext _ rfl
    have hfresh := hinv.taken taken hp
    refine ⟨hinv.file, fun s hs => ?_, fun s hs => ?_, fun s _ => hrename, ?_⟩
    · obtain rfl := Option.some.inj hs
      exact hfresh
    · rcases hnew _ hs with hs | hs
      · exact hinv.taken s hs
      · simp [Memory.save] at hs
    · by_cases hv : taken.version = m.current.version
      · exact .inr (.inl ⟨taken, rfl, hv⟩)
      · -- an old snapshot: the value was not in the temporary file, which holds no newer one
        rcases hinv.covered with hfile | ⟨s, hs, hsv⟩ | hsavers
        · exact .inl hfile
        · have := horder s hs
          have := hfresh.1
          exact absurd (show taken.version = m.current.version by omega) hv
        · exact .inr (.inr (savers_kept hkept (by simp) (by rintro _ ⟨⟩; exact hv) hsavers))
  | rename =>
    have hactive : ∀ q, active' q → active q := by
      intro q hq
      rcases hnew q hq with hq | hq
      · exact hq
      · rw [Memory.save] at hq
        split at hq <;> simp at hq
    rcases htmp : m.tmp with _ | taken
    · have hsave : (m.save .rename).1 = m := by simp [Memory.save, htmp]
      rw [hsave]
      refine ⟨hinv.file, hinv.tmp, fun s hs => hinv.taken s (hactive _ hs), fun s hs => by simp [htmp] at hs, ?_⟩
      rcases hinv.covered with hfile | ⟨s, hs, -⟩ | hsavers
      · exact .inl hfile
      · simp [htmp] at hs
      · exact .inr (.inr (savers_kept hkept (by simp) (by simp) hsavers))
    · have hsave : (m.save .rename).1 = { m with tmp := none, file := taken } := by simp [Memory.save, htmp]
      have hfresh := hinv.tmp taken htmp
      rw [hsave]
      refine ⟨hfresh, fun s hs => by simp at hs, fun s hs => hinv.taken s (hactive _ hs), fun s hs => by simp at hs, ?_⟩
      rcases hinv.covered with _ | ⟨s, hs, hsv⟩ | hsavers
      · -- the file is not replaced by an older snapshot
        have := horder taken htmp
        have := hfresh.1
        exact .inl (show taken.version = m.current.version by omega)
      · rw [htmp] at hs
        obtain rfl := Option.some.inj hs
        exact .inl hsv
      · exact .inr (.inr (savers_kept hkept (by simp) (by simp) hsavers))

theorem Inv.reader (hkept : ∀ p, active p → active' p)
    (hnew : ∀ p, active' p → active p ∨ p = .read) : Inv m active' where
  file := hinv.file
  tmp := hinv.tmp
  taken s hs := hinv.taken s ((hnew _ hs).resolve_right (by simp))
  writer s hs := hkept _ (hinv.writer s hs)
  covered := by
    rcases hinv.covered with hfile | htmp | hread | ⟨s, hs, hsv⟩
    · exact .inl hfile
    · exact .inr (.inl htmp)
    · exact .inr (.inr (.inl (hkept _ hread)))
    · exact .inr (.inr (.inr ⟨s, hkept _ hs, hsv⟩))

theorem Inv.replace (htmp : m.tmp = none) {taken} (hp : active (.write taken))
    (horder : m.file.version ≤ taken.version) (hkept : ∀ q, active q → q ≠ .write taken → active' q)
    (hnew : ∀ q, active' q → active q) : Inv { m with file := taken } active' where
  file := hinv.taken taken hp
  tmp := hinv.tmp
  taken s hs := hinv.taken s (hnew _ hs)
  writer s hs := by simp [htmp] at hs
  covered := by
    have hfresh := hinv.taken taken hp
    by_cases hv : taken.version = m.current.version
    · exact .inl hv
    · rcases hinv.covered with _ | ⟨s, hs, -⟩ | hsavers
      · -- the file is not replaced by an older snapshot
        have := hfresh.1
        exact absurd (show taken.version = m.current.version by omega) hv
      · simp [htmp] at hs
      · exact .inr (.inr (savers_kept hkept (by simp) (by rintro _ ⟨⟩; exact hv) hsavers))

theorem Inv.congr (h : ∀ p, active' p ↔ active p) : Inv m active' := by
  have heq : active' = active := funext fun p => propext (h p)
  rwa [heq]

/-- **With no saver left, the file holds the value in memory.** -/
theorem Inv.file_eq (hquiet : ∀ p, ¬ active p) : m.file.value = m.current.value := by
  rcases hinv.covered with hfile | ⟨s, hs, -⟩ | hread | ⟨s, hs, -⟩
  · exact hinv.file.2 hfile
  · exact absurd (hinv.writer s hs) (hquiet _)
  · exact absurd hread (hquiet _)
  · exact absurd hs (hquiet _)

end

end Saving
