import Mathlib.Data.Nat.Notation
import Mathlib.Tactic.Cases
import Mathlib.Tactic.SplitIfs

/-!
# Directory trees, and copies that are interrupted

A directory is a tree of named files. Copying it may be interrupted after any entry or byte; what was copied stays.
`copy_ok`: a copy that returns without an error is complete.
-/

namespace DirTree

/-- The content of a directory, in the order in which it is read. -/
inductive Dir where
  | nil
  | file (name : String) (content : List UInt8) (rest : Dir)
  | sub (name : String) (children rest : Dir)
  deriving DecidableEq, Repr

/-- The size of the files of a directory. -/
def Dir.size : Dir → ℕ
  | .nil => 0
  | .file _ content rest => content.length + rest.size
  | .sub _ children rest => children.size + rest.size

/-- What is copied of the entries when `work` operations succeed (to create an entry and to write a byte are one each),
and how many are left; none if the copy was interrupted. -/
def Dir.copyEntries : Dir → ℕ → Dir × Option ℕ
  | .nil, work => (.nil, some work)
  | .file _ _ _, 0 => (.nil, none)
  | .file name content rest, work + 1 =>
    if content.length ≤ work then
      let (rest', left) := rest.copyEntries (work - content.length)
      (.file name content rest', left)
    else (.file name (content.take work) .nil, none)
  | .sub _ _ _, 0 => (.nil, none)
  | .sub name children rest, work + 1 =>
    match children.copyEntries work with
    | (children', none) => (.sub name children' .nil, none)
    | (children', some work') =>
      let (rest', left) := rest.copyEntries work'
      (.sub name children' rest', left)

/-- A copy is interrupted after some operations, with the text of the error, or not at all. -/
abbrev Interrupt := Option (ℕ × String)

/-- Copy a directory, recursively: the directory that is there afterwards, if it was created, and the error. -/
def copy (source : Dir) : Interrupt → Option Dir × Except String Unit
  | none => (some source, .ok ())
  | some (0, message) => (none, .error message)
  | some (work + 1, message) =>
    match source.copyEntries work with
    | (copied, none) => (some copied, .error message)
    | (copied, some _) => (some copied, .ok ())

/-- Write a file into a directory. -/
def Dir.writeFile (name : String) (content : List UInt8) : Dir → Dir
  | .nil => .file name content .nil
  | .file name' content' rest =>
    if name' = name then .file name content rest else .file name' content' (rest.writeFile name content)
  | .sub name' children rest => .sub name' children (rest.writeFile name content)

/-- The directory `name` of a directory, empty if there is none. -/
def Dir.child (name : String) : Dir → Dir
  | .nil => .nil
  | .file _ _ rest => rest.child name
  | .sub name' children rest => if name' = name then children else rest.child name

/-- Give the directory `name` of a directory new content, and create it if it is not there. -/
def Dir.setChild (name : String) (children : Dir) : Dir → Dir
  | .nil => .sub name children .nil
  | .file name' content rest => .file name' content (Dir.setChild name children rest)
  | .sub name' children' rest =>
    if name' = name then .sub name children rest else .sub name' children' (Dir.setChild name children rest)

/-- What is in a directory after the entries of another have been copied into it. -/
def Dir.overlay : Dir → Dir → Dir
  | .nil, old => old
  | .file name content rest, old => rest.overlay (old.writeFile name content)
  | .sub name children rest, old => rest.overlay (Dir.setChild name (children.overlay (old.child name)) old)

variable {source : Dir}

theorem copyEntries_complete {work left} (h : (source.copyEntries work).2 = some left) :
    (source.copyEntries work).1 = source := by
  induction source generalizing work left with
  | nil => rfl
  | file _ content _ ih =>
    cases work with
    | zero => simp [Dir.copyEntries] at h
    | succ work =>
      by_cases hl : content.length ≤ work
      · simp only [Dir.copyEntries, hl, if_true] at h ⊢
        rw [ih h]
      · simp [Dir.copyEntries, hl] at h
  | sub _ children _ ihc ihr =>
    cases work with
    | zero => simp [Dir.copyEntries] at h
    | succ work =>
      rcases hc : children.copyEntries work with ⟨children', _ | _⟩
      · simp [Dir.copyEntries, hc] at h
      · simp only [Dir.copyEntries, hc] at h ⊢
        have hchildren : children' = children := by
          have := ihc (congrArg Prod.snd hc)
          rwa [hc] at this
        rw [hchildren, ihr h]

theorem copy_ok {interrupt} (h : (copy source interrupt).2 = .ok ()) : (copy source interrupt).1 = some source := by
  rcases interrupt with _ | ⟨_ | work, _⟩
  · rfl
  · simp [copy] at h
  · rcases hc : source.copyEntries work with ⟨_, _ | _⟩
    · simp [copy, hc] at h
    · simp only [copy, hc]
      have := copyEntries_complete (congrArg Prod.snd hc)
      rw [← this, hc]

end DirTree
