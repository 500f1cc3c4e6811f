import Mathlib.Data.List.Basic
import Mathlib.Data.List.Infix

/-!
# File systems with symbolic links

A file system is a map from physical locations, which are names from the root, to files, directories and links, with
data of any type. A path is resolved as POSIX says: `..` is the directory above, and a link is replaced by its text.
The number of links that are followed is bounded. `resolve_directories`: a path through directories only is not
redirected.
-/

namespace PosixFs

open List

/-- A file name: bytes without `/`. -/
abbrev Name := List UInt8

/-- A location: the names from the root. -/
abbrev Location := List Name

instance : LawfulBEq Location := inferInstance

/-- A component of a path. -/
inductive Comp where
  | up
  | name (n : Name)
  deriving DecidableEq, Repr

/-- A node: a file, a directory or a symbolic link, each with its data. -/
inductive Node (F D L : Type) where
  | file (data : F)
  | dir (data : D)
  | link (text : List UInt8) (data : L)
  deriving DecidableEq, Repr

variable {F D L : Type}

/-- It is a directory. -/
def Node.isDir : Node F D L → Bool
  | .dir _ => true
  | _ => false

/-- A file system. -/
abbrev Fs (F D L : Type) := Location → Option (Node F D L)

/-- There is a directory. -/
def Fs.isDir (fs : Fs F D L) (p : Location) : Bool := (fs p).any Node.isDir

/-! ### Resolving a path -/

/-- The mark between names. -/
def slash : UInt8 := 47

/-- A name with a meaning of its own. -/
def dot : UInt8 := 46

/-- The components of a text. Empty ones and `.` do not count. -/
def components (text : List UInt8) : List Comp :=
  (text.splitOn slash).filterMap fun part =>
    if part = [] ∨ part = [dot] then none else if part = [dot, dot] then some .up else some (.name part)

/-- Whether the text of a path begins at the root. -/
def isAbsolute (text : List UInt8) : Bool := text.head? == some slash

/-- Follow the components from the directory `p`, up to the first link that has to be followed; `next` goes on
from there. The last component is followed only if `follow` is set. -/
def walkSegment (fs : Fs F D L) (follow : Bool) (next : Location → List Comp → Option Location) :
    Location → List Comp → Option Location
  | p, [] => some p
  | p, .up :: rest => walkSegment fs follow next p.dropLast rest
  | p, .name n :: rest =>
    match fs (p ++ [n]) with
    | none => none
    | some (.dir _) => walkSegment fs follow next (p ++ [n]) rest
    | some (.file _) => if rest.isEmpty then some (p ++ [n]) else none
    | some (.link text _) =>
      if rest.isEmpty && !follow then some (p ++ [n])
      else next (if isAbsolute text then [] else p) (components text ++ rest)

/-- Follow the components, and at most `links` links. -/
def walk (fs : Fs F D L) (follow : Bool) : ℕ → Location → List Comp → Option Location
  | 0 => walkSegment fs follow fun _ _ => none
  | links + 1 => walkSegment fs follow (walk fs follow links)

/-- The number of links that are followed. -/
def maxLinks : ℕ := 40

/-- The location of a path from the directory `p`. -/
def resolve (fs : Fs F D L) (follow : Bool) (p : Location) (path : List Comp) : Option Location :=
  walk fs follow maxLinks p path

/-- The directory a path leads to. -/
def resolveDir (fs : Fs F D L) (p : Location) (path : List Comp) : Option Location :=
  (resolve fs true p path).filter fs.isDir

variable {p q : Location}

variable {n : Name} {follow : Bool} {fs : Fs F D L}

theorem ne_none_of_isDir (h : fs.isDir p = true) : fs p ≠ none := by
  intro hnone
  rw [Fs.isDir, hnone] at h
  cases h

theorem walkSegment_dir (h : fs.isDir (p ++ [n]) = true) (follow) (next : Location → List Comp → Option Location)
    (rest : List Comp) :
    walkSegment fs follow next p (.name n :: rest) = walkSegment fs follow next (p ++ [n]) rest := by
  rcases hnode : fs (p ++ [n]) with _ | ⟨_ | _ | _⟩
  all_goals simp only [Fs.isDir, hnode, Option.any_none, Option.any_some, Node.isDir, Bool.false_eq_true] at h
  simp [walkSegment, hnode]

theorem walkSegment_through {next} (h : ∀ r, r <+: q → r ≠ [] → fs.isDir (p ++ r) = true) (rest : List Comp) :
    walkSegment fs follow next p (q.map Comp.name ++ rest) = walkSegment fs follow next (p ++ q) rest := by
  induction q generalizing p with
  | nil => rw [map_nil, nil_append, append_nil]
  | cons n _ ih =>
    rw [map_cons, cons_append, walkSegment_dir (h [n] (by simp) (by simp)), ih]
    · rw [append_assoc, singleton_append]
    · intro r hr _
      rw [append_assoc]
      exact h (n :: r) (cons_prefix_cons.mpr ⟨rfl, hr⟩) (cons_ne_nil _ _)

/-- A path through directories only leads where it says. -/
theorem resolve_directories {names} (h : ∀ q, q <+: names → q ≠ [] → fs.isDir (p ++ q) = true) :
    resolve fs follow p (names.map .name) = some (p ++ names) := by
  rw [← append_nil (names.map Comp.name)]
  exact walkSegment_through h []

/-! ### Removing -/

/-- What is to be removed. -/
inductive Doomed where
  | tree (p : Location)
  | below (p : Location)
  deriving DecidableEq, Repr

/-- Whether a location is among what is to be removed. -/
def Doomed.covers : Doomed → Location → Bool
  | .tree p, q => p.isPrefixOf q
  | .below p, q => p.isPrefixOf q && p != q

/-- Remove what is doomed. -/
def Fs.remove (fs : Fs F D L) (doomed : Doomed) : Fs F D L := fun q => if doomed.covers q then none else fs q

variable {doomed : Doomed}

theorem remove_of_covers (h : doomed.covers q = true) : fs.remove doomed q = none := by
  simp [Fs.remove, h]

theorem remove_of_not_covers (h : doomed.covers q = false) : fs.remove doomed q = fs q := by
  simp [Fs.remove, h]

/-! ### Writing -/

/-- Put a node at a location. -/
def Fs.put (fs : Fs F D L) (p : Location) (node : Node F D L) : Fs F D L := fun q => if q = p then some node else fs q

/-- The directories of the path `names` from `p` are directories, and no links. -/
def Fs.RealParents (fs : Fs F D L) (p : Location) (names : List Name) : Prop :=
  ∀ q, q <+: names → q ≠ names → fs.isDir (p ++ q) = true

/-! ### Trees -/

/-- The entries of a directory, in the order in which they are read. -/
inductive Listing (F D L : Type) where
  | nil
  | entry (name : Name) (node : Node F D L) (children rest : Listing F D L)
  deriving DecidableEq, Repr

namespace Listing

/-- The names in a directory. -/
def names : Listing F D L → List Name
  | nil => []
  | entry name _ _ rest => name :: rest.names

/-- What is at a location. -/
def get : Listing F D L → Location → Option (Node F D L)
  | nil, _ => none
  | entry _ _ _ _, [] => none
  | entry name node children rest, n :: q =>
    if n = name then if q = [] then some node else children.get q else rest.get (n :: q)

end Listing

/-- It can be a name. -/
def ValidName (n : Name) : Prop := n ≠ [] ∧ n ≠ [dot] ∧ n ≠ [dot, dot] ∧ slash ∉ n

instance (n : Name) : Decidable (ValidName n) := inferInstanceAs (Decidable (_ ∧ _))

/-- Names are valid and not used twice, and only directories have something in them. -/
def Listing.WellFormed : Listing F D L → Prop
  | .nil => True
  | .entry name node children rest =>
    ValidName name ∧ name ∉ rest.names ∧ (node.isDir = false → children = .nil) ∧ children.WellFormed ∧ rest.WellFormed

/-- A directory and everything in it. -/
structure FileTree (F D L : Type) where
  root : D
  listing : Listing F D L
  wellFormed : listing.WellFormed

/-- What is at a location. -/
def FileTree.get (tree : FileTree F D L) (p : Location) : Option (Node F D L) :=
  if p = [] then some (.dir tree.root) else tree.listing.get p

variable {listing : Listing F D L}

theorem Listing.get_of_not_mem (h : n ∉ listing.names) (q : Location) : listing.get (n :: q) = none := by
  induction listing with
  | nil => rfl
  | entry _ _ _ _ _ ih =>
    simp only [names, mem_cons, not_or] at h
    rw [get, if_neg h.1]
    exact ih h.2

theorem Listing.isDir_above (hwf : listing.WellFormed) (hp : p ≠ []) (hq : q ≠ []) (h : listing.get (p ++ q) ≠ none) :
    (listing.get p).any Node.isDir = true := by
  induction listing generalizing p with
  | nil => exact absurd rfl h
  | entry name node _ _ ihc ihr =>
    obtain ⟨-, -, hchildren, hwfc, hwfr⟩ := hwf
    cases p with
    | nil => exact absurd rfl hp
    | cons n p =>
      rw [cons_append, get] at h
      rw [get]
      by_cases hn : n = name
      · rw [if_pos hn] at h ⊢
        rw [if_neg (by simp [hq])] at h
        by_cases hp' : p = []
        · rw [if_pos hp']
          cases hdir : node.isDir with
          | true => exact hdir
          | false => rw [hchildren hdir] at h; exact absurd rfl h
        · rw [if_neg hp']
          exact ihc hwfc hp' h
      · rw [if_neg hn] at h ⊢
        exact ihr hwfr (by simp) h

theorem Listing.validName_of_get (hwf : listing.WellFormed) (h : listing.get p ≠ none) : ∀ n ∈ p, ValidName n := by
  induction listing generalizing p with
  | nil => exact absurd rfl h
  | entry _ _ _ _ ihc ihr =>
    obtain ⟨hname, -, -, hwfc, hwfr⟩ := hwf
    cases p with
    | nil => simp
    | cons =>
      rw [get] at h
      split_ifs at h with hn hp
      · simpa [hp, hn] using hname
      · simp only [mem_cons, forall_eq_or_imp]
        exact ⟨hn ▸ hname, ihc hwfc h⟩
      · exact ihr hwfr h

namespace FileTree

variable {tree : FileTree F D L}

theorem isDir_above (hq : q ≠ []) (h : tree.get (p ++ q) ≠ none) : (tree.get p).any Node.isDir = true := by
  rw [get]
  split_ifs with hp
  · rfl
  · rw [get, if_neg (by simp [hp])] at h
    exact Listing.isDir_above tree.wellFormed hp hq h

theorem validName_of_get (h : tree.get p ≠ none) : ∀ n ∈ p, ValidName n := by
  rw [get] at h
  split_ifs at h with hp
  · simp [hp]
  · exact Listing.validName_of_get tree.wellFormed h

end FileTree

end PosixFs
