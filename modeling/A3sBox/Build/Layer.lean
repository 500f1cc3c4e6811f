import A3sBox.Image.Layers
import Mathlib.Data.List.AList

/-!
# The layer of a RUN step

`runtime/src/oci/build/layer.rs`: the rootfs is captured before and after the command; what is new or differs in size,
modification time or mode is put into an archive, and after it a whiteout for every path that is gone while its
directory is still there.

## The model

A rootfs is a tree with what `stat` tells about every node, and the archive the sequence of its entries; `linkName` is
what it makes of the text of a link. Owners and extended attributes are left out, and a layer restores no times.

`deletions_cover`: of all that is gone, exactly the topmost paths are reported.
-/

namespace A3sBox.Build

open PosixFs Text Image List AList

/-! ### What is captured -/

/-- The permission bits of a mode. -/
abbrev Perm := Fin 0o10000

instance neZeroPerms : NeZero 0o10000 := ⟨by decide⟩

/-- What there is to know about a file. -/
structure FileInfo where
  content : List UInt8
  perm : Perm
  mtime : ℤ
  deriving DecidableEq, Repr

/-- What there is to know about a directory. -/
structure DirInfo where
  perm : Perm
  mtime : ℤ
  size : ℕ
  deriving DecidableEq, Repr

/-- What there is to know about a symbolic link, its text apart. -/
structure LinkInfo where
  mtime : ℤ
  deriving DecidableEq, Repr

/-- What is at a path of a rootfs. -/
abbrev RootfsNode := Node FileInfo DirInfo LinkInfo

/-- A tree of files. -/
abbrev Rootfs := FileTree FileInfo DirInfo LinkInfo

/-- The size that `stat` reports. -/
def statSize : RootfsNode → ℕ
  | .file f => f.content.length
  | .dir d => d.size
  | .link text _ => text.length

/-- The mode that `stat` reports, with the bits of the type. -/
def statMode : RootfsNode → ℕ
  | .file f => 0o100000 + f.perm
  | .dir d => 0o40000 + d.perm
  | .link _ _ => 0o120777

/-- The seconds since the epoch; what is before it counts as zero. -/
def statMtime : RootfsNode → ℕ
  | .file f => f.mtime.toNat
  | .dir d => d.mtime.toNat
  | .link _ i => i.mtime.toNat

/-- An entry of a snapshot. -/
structure FileEntry where
  path : Location
  size : ℕ
  mtime : ℕ
  mode : ℕ
  isDir : Bool
  deriving DecidableEq, Repr

/-- What a snapshot notes of a node. -/
def FileEntry.ofNode (path : Location) (node : RootfsNode) : FileEntry where
  path := path
  size := statSize node
  mtime := statMtime node
  mode := statMode node
  isDir := node.isDir

/-- The entries of a snapshot. -/
abbrev Entries := AList fun _ : Location => FileEntry

/-- A snapshot. -/
structure DirSnapshot where
  entries : Entries

/-- Collect the entries of a directory that is at `current`, recursively. -/
def walkDir : Listing FileInfo DirInfo LinkInfo → Location → Entries → Entries
  | .nil, _, entries => entries
  | .entry name node children rest, current, entries =>
    let relative := current ++ [name]
    let entries := entries.insert relative (.ofNode relative node)
    walkDir rest current (if node.isDir then walkDir children relative entries else entries)

/-- The snapshot of a rootfs. -/
def DirSnapshot.capture (rootfs : Rootfs) : DirSnapshot := ⟨walkDir rootfs.listing [] ∅⟩

/-- Paths in order, name by name. -/
def sortPaths (paths : List Location) : List Location := paths.mergeSort fun p q => decide (p ≤ q)

/-- Whether an entry differs: in size, modification time or mode. -/
def FileEntry.differs (before after : FileEntry) : Bool :=
  before.size != after.size || before.mtime != after.mtime || before.mode != after.mode

/-- The paths that are new or differ. -/
def DirSnapshot.diff (before after : DirSnapshot) : List Location :=
  sortPaths <| after.entries.entries.filterMap fun ⟨path, afterEntry⟩ =>
    match before.entries.lookup path with
    | none => some path
    | some beforeEntry => if beforeEntry.differs afterEntry then some path else none

/-- The paths that are gone while the directory they were in is there. -/
def DirSnapshot.deletions (before after : DirSnapshot) : List Location :=
  sortPaths <| before.entries.keys.filter fun path =>
    path ∉ after.entries ∧ (path.dropLast = [] ∨ path.dropLast ∈ after.entries)

/-! ### The archive -/

/-- What a layer restores of a file. -/
structure FileState where
  content : List UInt8
  perm : Perm
  deriving DecidableEq, Repr

/-- A node on disk, without its times. -/
abbrev DiskNode := Node FileState Perm Unit

/-- The disk that layers are extracted to. -/
abbrev Disk := Fs FileState Perm Unit

/-- The node without its times. -/
def diskNode : RootfsNode → DiskNode
  | .file f => .file ⟨f.content, f.perm⟩
  | .dir d => .dir d.perm
  | .link text _ => .link text ()

variable (linkName : List UInt8 → List UInt8)

/-- What the archive keeps of a node. -/
def archived : DiskNode → DiskNode
  | .link text _ => .link (linkName text) ()
  | node => node

/-- The entry of a changed path. -/
def changedEntry (path : Location) (node : RootfsNode) : TarEntry DiskNode :=
  ⟨⟨false, path.map .name⟩, archived linkName (diskNode node)⟩

/-- The marker of a path that is gone. -/
def whiteout (path : Location) : Option (TarEntry DiskNode) :=
  path.getLast?.map fun fileName =>
    ⟨⟨false, path.dropLast.map .name ++ [.name (whiteoutPrefix ++ utf8Lossy fileName)]⟩, .file ⟨[], 0o644⟩⟩

/-- The entries of the layer. A changed path that is not there any more is left out. -/
def createLayer (rootfs : Rootfs) (changedFiles deletedFiles : List Location) : List (TarEntry DiskNode) :=
  changedFiles.filterMap (fun path => (rootfs.get path).map (changedEntry linkName path)) ++
    deletedFiles.filterMap whiteout

/-- The paths that are new or changed. -/
def changedFiles (before after : Rootfs) : List Location := (DirSnapshot.capture before).diff (.capture after)

/-- The topmost paths that are gone. -/
def deletedFiles (before after : Rootfs) : List Location := (DirSnapshot.capture before).deletions (.capture after)

/-- The layer of a step. -/
def runLayer (before after : Rootfs) : List (TarEntry DiskNode) :=
  createLayer linkName after (changedFiles before after) (deletedFiles before after)

/-! ### Snapshots by path -/

theorem walkDir_lookup {listing} (hwf : listing.WellFormed) (current p : Location) (entries : Entries) :
    (walkDir listing current entries).lookup p =
      if current <+: p then ((listing.get (p.drop current.length)).map (.ofNode p)).or (entries.lookup p)
      else entries.lookup p := by
  induction listing generalizing current entries with
  | nil => simp [walkDir, Listing.get]
  | entry name node children rest ihc ihr =>
    obtain ⟨-, hname, hchildren, hwfc, hwfr⟩ := hwf
    -- a node that is no directory has nothing in it, so that the walk may as well go into it
    have hwalk : (if node.isDir then walkDir children (current ++ [name])
        (entries.insert (current ++ [name]) (.ofNode (current ++ [name]) node))
        else entries.insert (current ++ [name]) (.ofNode (current ++ [name]) node)) =
        walkDir children (current ++ [name])
          (entries.insert (current ++ [name]) (.ofNode (current ++ [name]) node)) := by
      split_ifs with hdir
      · rfl
      · rw [hchildren (by simpa using hdir), walkDir]
    rw [walkDir, hwalk, ihr hwfr, ihc hwfc]
    by_cases hpre : current <+: p
    · obtain ⟨q, rfl⟩ := hpre
      simp only [drop_left]
      cases q with
      | nil =>
        have hself : ¬ current ++ [name] <+: current ++ [] := by
          intro h
          have := h.length_le
          simp at this
        have hne : current ++ [] ≠ current ++ [name] := by simp
        rw [if_neg hself, lookup_insert_ne hne]
        cases rest <;> rfl
      | cons n q =>
        by_cases hn : n = name
        · subst hn
          rw [Listing.get_of_not_mem hname, Listing.get]
          by_cases hq : q = []
          · subst hq
            cases hc : children <;> simp [Listing.get]
          · have hne : current ++ n :: q ≠ current ++ [n] := by simp [hq]
            rw [if_neg hq, lookup_insert_ne hne]
            simp
        · have hnot : ¬ current ++ [name] <+: current ++ n :: q := by
            simp [Ne.symm hn]
          have hne : current ++ n :: q ≠ current ++ [name] := by simp [hn]
          rw [if_neg hnot, lookup_insert_ne hne, Listing.get, if_neg hn]
    · have hnot : ¬ current ++ [name] <+: p := fun h => hpre ((prefix_append _ _).trans h)
      have hne : p ≠ current ++ [name] := by
        rintro rfl
        exact hpre (prefix_append _ _)
      rw [if_neg hpre, if_neg hpre, if_neg hnot, lookup_insert_ne hne]

theorem capture_lookup (rootfs : Rootfs) (p : Location) :
    (DirSnapshot.capture rootfs).entries.lookup p = if p = [] then none else (rootfs.get p).map (.ofNode p) := by
  rw [DirSnapshot.capture, walkDir_lookup rootfs.wellFormed, if_pos nil_prefix, length_nil, drop_zero,
    lookup_empty, Option.or_none]
  split_ifs with hp
  · subst hp
    cases rootfs.listing <;> rfl
  · rw [FileTree.get, if_neg hp]

variable {p : Location}

theorem mem_capture {rootfs} : p ∈ (DirSnapshot.capture rootfs).entries ↔ p ≠ [] ∧ rootfs.get p ≠ none := by
  rw [← lookup_isSome, capture_lookup]
  split_ifs with hp
  · simp [hp]
  · simp [hp, Option.isSome_iff_ne_none]

/-- What a snapshot can tell of a change of a node. -/
def Differs (x y : RootfsNode) : Prop := statSize x ≠ statSize y ∨ statMtime x ≠ statMtime y ∨ statMode x ≠ statMode y

theorem differs_ofNode {x y} : (FileEntry.ofNode p x).differs (.ofNode p y) = true ↔ Differs x y := by
  simp [FileEntry.differs, FileEntry.ofNode, Differs, or_assoc]

variable {before after : Rootfs}

theorem mem_sortPaths {paths} : p ∈ sortPaths paths ↔ p ∈ paths := mem_mergeSort

theorem mem_changedFiles : p ∈ changedFiles before after ↔
      p ≠ [] ∧ ∃ y, after.get p = some y ∧ ∀ x, before.get p = some x → Differs x y := by
  rw [changedFiles, DirSnapshot.diff, mem_sortPaths, mem_filterMap]
  constructor
  · rintro ⟨⟨q, _⟩, he, hq⟩
    have hlookup := mem_lookup_iff.2 he
    rw [capture_lookup] at hlookup
    have hp : q = p := by
      simp only at hq
      split at hq
      · exact Option.some.inj hq
      · exact (Option.ite_none_right_eq_some.1 hq).2 |> Option.some.inj
    subst hp
    split_ifs at hlookup with hnil
    · simp at hlookup
    obtain ⟨y, hy, rfl⟩ := Option.map_eq_some_iff.1 hlookup
    refine ⟨hnil, y, hy, fun x hx => ?_⟩
    simpa [capture_lookup, hnil, hx, differs_ofNode] using hq
  · rintro ⟨hnil, y, hy, hdiffers⟩
    refine ⟨⟨p, .ofNode p y⟩, ?_, ?_⟩
    · apply mem_lookup_iff.1
      simp [capture_lookup, hnil, hy]
    · rcases hx : before.get p with _ | x
      · simp [capture_lookup, hx]
      · simp [capture_lookup, hnil, hx, differs_ofNode, hdiffers x hx]

theorem mem_deletions {old new : DirSnapshot} : p ∈ old.deletions new ↔
    p ∈ old.entries ∧ p ∉ new.entries ∧ (p.dropLast = [] ∨ p.dropLast ∈ new.entries) := by
  rw [DirSnapshot.deletions, mem_sortPaths, mem_filter, ← AList.mem_keys, decide_eq_true_eq]

theorem mem_deletedFiles : p ∈ deletedFiles before after ↔
      p ≠ [] ∧ before.get p ≠ none ∧ after.get p = none ∧ after.get p.dropLast ≠ none := by
  have hparent : (p.dropLast = [] ∨ p.dropLast ∈ (DirSnapshot.capture after).entries) ↔ after.get p.dropLast ≠ none := by
    rw [mem_capture]
    by_cases hp : p.dropLast = []
    · simp [hp, FileTree.get]
    · simp [hp]
  rw [deletedFiles, mem_deletions, hparent, mem_capture, mem_capture]
  tauto

theorem pairwise_sortPaths (paths : List Location) : (sortPaths paths).Pairwise (· ≤ ·) := by
  refine (pairwise_mergeSort ?_ ?_ paths).imp of_decide_eq_true
  · intro p q r hpq hqr
    exact decide_eq_true (List.le_trans (of_decide_eq_true hpq) (of_decide_eq_true hqr))
  · intro p q
    rcases List.le_total p q with h | h <;> simp [h]

theorem parent_done {done rest q} (h : changedFiles before after = done ++ p :: rest)
    (hq : q <+: p) (hne : q ≠ p) : q ∈ done ∨ q ∉ changedFiles before after := by
  by_contra hnot
  push Not at hnot
  have hsorted : (changedFiles before after).Pairwise (· ≤ ·) := pairwise_sortPaths _
  rw [h, pairwise_append, pairwise_cons] at hsorted
  rw [h, mem_append, mem_cons] at hnot
  obtain hq' | hq' | hq' := hnot.2
  · exact hnot.1 hq'
  · exact hne hq'
  · exact hne (List.le_antisymm hq.le (hsorted.2.1.1 q hq'))

/-! ### What is gone -/

/-- A snapshot of paths below the root, with the directories they are in. -/
structure ClosedSnapshot extends DirSnapshot where
  nil_not_mem : [] ∉ entries
  parent : ∀ {p name}, p ++ [name] ∈ entries → p = [] ∨ p ∈ entries

/-- What is captured of a rootfs is closed. -/
def ClosedSnapshot.capture (rootfs : Rootfs) : ClosedSnapshot where
  toDirSnapshot := .capture rootfs
  nil_not_mem h := (mem_capture.mp h).1 rfl
  parent {p name} h := by
    have hdir := FileTree.isDir_above (cons_ne_nil name []) (mem_capture.mp h).2
    refine or_iff_not_imp_left.mpr fun hne => mem_capture.mpr ⟨hne, fun hnone => ?_⟩
    simp [hnone] at hdir

variable {before after s : ClosedSnapshot} {q : Location}

theorem ClosedSnapshot.mem_of_prefix (hp : p ∈ s.entries) (hq : q <+: p) (hne : q ≠ []) : q ∈ s.entries := by
  induction p using reverseRecOn with
  | nil => exact absurd (prefix_nil.mp hq) hne
  | append_singleton p name ih =>
    rcases prefix_concat_iff.mp hq with rfl | hq
    · exact hp
    · rcases s.parent hp with rfl | hparent
      · exact absurd (prefix_nil.mp hq) hne
      · exact ih hparent hq

theorem deletions_antichain (hp : p ∈ before.deletions after.toDirSnapshot)
    (hq : q ∈ before.deletions after.toDirSnapshot) (h : p <+: q) : p = q := by
  obtain ⟨hp, hgone, -⟩ := mem_deletions.mp hp
  have hne : p ≠ [] := fun hnil => before.nil_not_mem (hnil ▸ hp)
  induction q using reverseRecOn with
  | nil => exact prefix_nil.mp h
  | append_singleton q name _ =>
    rcases prefix_concat_iff.mp h with rfl | h
    · rfl
    · rw [mem_deletions, dropLast_concat] at hq
      rcases hq.2.2 with rfl | hparent
      · exact absurd (prefix_nil.mp h) hne
      · exact absurd (ClosedSnapshot.mem_of_prefix hparent h hne) hgone

/-- The first directory on the way to a path that is gone is reported, or the path itself. -/
theorem exists_deletion (hp : p ∈ before.entries) (hgone : p ∉ after.entries) :
    ∃ q ∈ before.deletions after.toDirSnapshot, q <+: p := by
  induction p using reverseRecOn with
  | nil => exact absurd hp before.nil_not_mem
  | append_singleton p name ih =>
    by_cases hparent : p = [] ∨ p ∈ after.entries
    · exact ⟨_, mem_deletions.mpr ⟨hp, hgone, by rwa [dropLast_concat]⟩, prefix_refl _⟩
    · obtain ⟨hne, hnot⟩ := not_or.mp hparent
      obtain ⟨q, hq, hprefix⟩ := ih ((before.parent hp).resolve_left hne) hnot
      exact ⟨q, hq, hprefix.trans (List.prefix_append p [name])⟩

/-- **What is reported as gone.** No path that is reported is below another; and a path is gone exactly if it or a
directory that it was in is reported, and only one is. -/
theorem deletions_cover (before after : ClosedSnapshot) :
    (∀ p ∈ before.deletions after.toDirSnapshot, ∀ q ∈ before.deletions after.toDirSnapshot, p <+: q → p = q) ∧
    ∀ p ∈ before.entries,
      (p ∉ after.entries ↔ ∃ q ∈ before.deletions after.toDirSnapshot, q <+: p) ∧
      (p ∉ after.entries → ∃! q, q ∈ before.deletions after.toDirSnapshot ∧ q <+: p) := by
  refine ⟨fun p hp q hq => deletions_antichain hp hq, fun p hp => ⟨⟨exists_deletion hp, ?_⟩, fun hgone => ?_⟩⟩
  · rintro ⟨q, hq, hprefix⟩ hpresent
    obtain ⟨hbefore, hgone, -⟩ := mem_deletions.mp hq
    exact hgone (ClosedSnapshot.mem_of_prefix hpresent hprefix fun hnil => before.nil_not_mem (hnil ▸ hbefore))
  · obtain ⟨q, hq, hprefix⟩ := exists_deletion hp hgone
    refine ⟨q, ⟨hq, hprefix⟩, fun other ⟨hother, hotherPrefix⟩ => ?_⟩
    rcases List.prefix_or_prefix_of_prefix hotherPrefix hprefix with h | h
    · exact deletions_antichain hother hq h
    · exact (deletions_antichain hq hother h).symm

/-- A rootfs with one entry in its root. -/
def oneEntry (name : String) (node : RootfsNode) (h : ValidName (utf8 name)) : Rootfs where
  root := ⟨0o755, 0, 4096⟩
  listing := .entry (utf8 name) node .nil .nil
  wellFormed := ⟨h, by simp [Listing.names], fun _ => rfl, trivial, trivial⟩

theorem validName_cache : ValidName (utf8 "cache") := by decide +kernel

/-- A rootfs with the one directory `cache`, in which there is what is in the root of another. -/
def cacheOf (rootfs : Rootfs) : Rootfs where
  root := ⟨0o755, 0, 4096⟩
  listing := .entry (utf8 "cache") (.dir ⟨0o755, 7, 4096⟩) rootfs.listing .nil
  wellFormed := ⟨validName_cache, by simp [Listing.names], by simp [Node.isDir], rootfs.wellFormed, trivial⟩

/-- `deletions_cover` where a directory becomes a file: what was in it is reported, and the directory is not. -/
theorem deletions_cover_replaced :
    let before := ClosedSnapshot.capture (cacheOf (oneEntry "a" (.file ⟨[1], 0o644, 7⟩) (by decide +kernel)))
    let after := ClosedSnapshot.capture (oneEntry "cache" (.file ⟨[1], 0o644, 9⟩) validName_cache)
    [utf8 "cache"] ∉ before.deletions after.toDirSnapshot ∧
      ∃! q, q ∈ before.deletions after.toDirSnapshot ∧ q <+: [utf8 "cache", utf8 "a"] := by
  intro before after
  have hfile : [utf8 "cache"] ∈ after.entries := by decide +kernel
  have hold : [utf8 "cache", utf8 "a"] ∈ before.entries := by decide +kernel
  refine ⟨fun h => (mem_deletions.mp h).2.1 hfile, ((deletions_cover before after).2 _ hold).2 ?_⟩
  decide +kernel

end A3sBox.Build
