import A3sBox.Core.Error
import A3sBox.Library.PosixFs
import A3sBox.Library.Text

/-!
# Extracting layers

`runtime/src/oci/layers.rs`: the entries of a layer are unpacked into a directory. One named `.wh.<name>` removes
`<name>` next to it instead, and one named `.wh..wh..opq` empties its directory.

## The model

`unpack_in` of the `tar` crate is a parameter (`Tar`). The target is given by its physical location, and the path of a
marker is resolved from there through the links in the tree. After `.wh.` there may be nothing, `.` or `..`: that is a
directory, and `remove_dir_all` removes what is in it before it fails. Otherwise a removal does not fail.

`extract_confined_iff`: when nothing outside the target changes. `whiteout_through_link` is a marker behind a link.
-/

namespace A3sBox.Image

open PosixFs Text List Option

/-! ### Entries -/

/-- The path of an entry: whether it begins with `/`, and its components. -/
structure TarPath where
  rooted : Bool
  parts : List Comp
  deriving DecidableEq, Repr

/-- The last component, if it is a name. -/
def TarPath.fileName (path : TarPath) : Option Name :=
  match path.parts.getLast? with
  | some (.name n) => some n
  | _ => none

/-- The path without its last component. -/
def TarPath.parent (path : TarPath) : Option (List Comp) :=
  if path.parts.isEmpty then none else some path.parts.dropLast

/-- An entry of an archive. -/
structure TarEntry (E : Type) where
  path : TarPath
  body : E

/-- Why an entry cannot be read. -/
inductive Unreadable where
  | entry (message : String)
  | path (message : String)

/-- What `extract_layer` reports. -/
def Unreadable.error : Unreadable → BoxError
  | .entry message => .ociImageError s!"Failed to read layer entry: {message}"
  | .path message => .ociImageError s!"Invalid layer entry path: {message}"

/-- The `tar` crate: unpack an entry into a directory. -/
structure Tar (E F D L : Type) where
  unpackIn : Location → Fs F D L → TarEntry E → Fs F D L × Except String Unit

/-! ### Markers -/

/-- The name of a marker that empties its directory. -/
def opaqueName : Name := utf8 ".wh..wh..opq"

/-- How the name of a marker begins. -/
def whiteoutPrefix : Name := utf8 ".wh."

/-- What an entry is for. -/
inductive Role where
  /-- It is left out: its path contains `..`. -/
  | skipped
  | clear (parent : List Comp)
  | whiteout (parent : List Comp) (victim : Name)
  | unpacked
  deriving DecidableEq, Repr

/-- The name of an entry as text, empty if it is none. -/
def TarPath.fileNameText (path : TarPath) : Name :=
  match path.fileName with
  | some n => if isUtf8 n then n else []
  | none => []

/-- What an entry is for. -/
def TarPath.role (path : TarPath) : Role :=
  if .up ∈ path.parts then .skipped
  else if path.fileNameText = opaqueName then
    match path.parent with
    | some parent => .clear parent
    | none => .skipped
  else if whiteoutPrefix <+: path.fileNameText then
    match path.parent with
    | some parent => .whiteout parent (path.fileNameText.drop whiteoutPrefix.length)
    | none => .skipped
  else .unpacked

variable {E F D L : Type}

/-- What `remove_path` removes for the whiteout of `victim` in `parent`, whose path begins at `start`. -/
def whiteoutDoomed (fs : Fs F D L) (start : Location) (parent : List Comp) (victim : Name) : Option Doomed :=
  match resolveDir fs start parent with
  | none => none
  | some d =>
    if victim = [] then
      -- the path ends in a slash: a link is followed, and cannot be removed as a directory
      if d ≠ [] ∧ resolve fs false start parent = some d then some (.tree d) else some (.below d)
    else if victim = [dot] then some (.below d)
    else if victim = [dot, dot] then some (.below d.dropLast)
    else if (fs (d ++ [victim])).isSome then some (.tree (d ++ [victim]))
    else none

/-- What a marker removes. A path that begins with `/` is not taken from the target. -/
def doomed (fs : Fs F D L) (target : Location) (path : TarPath) : Option Doomed :=
  let start := if path.rooted then [] else target
  match path.role with
  | .clear parent => (resolveDir fs start parent).map .below
  | .whiteout parent victim => whiteoutDoomed fs start parent victim
  | _ => none

/-! ### Extraction -/

/-- Extract one entry; `targetText` is the target as it is shown in messages. -/
def extractEntry (tar : Tar E F D L) (target : Location) (targetText : String) (fs : Fs F D L) (entry : TarEntry E) :
    Fs F D L × Except BoxError Unit :=
  match entry.path.role with
  | .unpacked =>
    match tar.unpackIn target fs entry with
    | (fs', .ok ()) => (fs', .ok ())
    | (fs', .error e) => (fs', .error (.ociImageError s!"Failed to extract layer to {targetText}: {e}"))
  | _ =>
    match doomed fs target entry.path with
    | none => (fs, .ok ())
    | some d => (fs.remove d, .ok ())

/-- Extract a layer. -/
def extractLayer (tar : Tar E F D L) (target : Location) (targetText : String) :
    Fs F D L → List (Except Unreadable (TarEntry E)) → Fs F D L × Except BoxError Unit
  | fs, [] => (fs, .ok ())
  | fs, .error e :: _ => (fs, .error e.error)
  | fs, .ok entry :: rest =>
    match extractEntry tar target targetText fs entry with
    | (fs', .error e) => (fs', .error e)
    | (fs', .ok ()) => extractLayer tar target targetText fs' rest

variable {tar : Tar E F D L} {target : Location} {targetText : String} {fs fs' : Fs F D L} {p : Location}
  {entries : List (TarEntry E)} {entry : TarEntry E}

/-! ### One entry after the other -/

theorem extractLayer_cons (entry) (rest : List (Except Unreadable (TarEntry E))) :
    extractLayer tar target targetText fs (.ok entry :: rest) =
      match extractEntry tar target targetText fs entry with
      | (fs', .error e) => (fs', .error e)
      | (fs', .ok ()) => extractLayer tar target targetText fs' rest := rfl

theorem extractLayer_cons_ok {rest fs'} (h : extractEntry tar target targetText fs entry = (fs', .ok ())) :
    extractLayer tar target targetText fs (.ok entry :: rest) = extractLayer tar target targetText fs' rest := by
  rw [extractLayer_cons, h]

theorem extractLayer_append_ok {l₁ l₂ fs₂} : extractLayer tar target targetText fs (l₁ ++ l₂) = (fs₂, .ok ()) ↔
      ∃ fs₁, extractLayer tar target targetText fs l₁ = (fs₁, .ok ()) ∧
        extractLayer tar target targetText fs₁ l₂ = (fs₂, .ok ()) := by
  induction l₁ generalizing fs with
  | nil => simp [extractLayer]
  | cons item _ ih =>
    rcases item with _ | entry
    · simp [extractLayer]
    · rw [cons_append, extractLayer_cons, extractLayer_cons]
      rcases extractEntry tar target targetText fs entry with ⟨_, _ | ⟨⟨⟩⟩⟩
      · simp
      · exact ih

theorem extractEntry_marker (h : entry.path.role ≠ .unpacked) : extractEntry tar target targetText fs entry =
      ((doomed fs target entry.path).elim fs fs.remove, .ok ()) := by
  rw [extractEntry]
  split
  next hrole => exact absurd hrole h
  · split <;> simp_all

theorem extractLayer_markers (h : ∀ entry ∈ entries, entry.path.role ≠ .unpacked) :
    ∃ fs', extractLayer tar target targetText fs (entries.map .ok) = (fs', .ok ()) ∧
      ∀ p, fs' p = none ∨ fs' p = fs p := by
  induction entries generalizing fs with
  | nil => exact ⟨fs, rfl, fun p => .inr rfl⟩
  | cons entry _ ih =>
    obtain ⟨fs', hrun, hfs'⟩ := @ih ((doomed fs target entry.path).elim fs fs.remove)
      fun e he => h e (mem_cons_of_mem _ he)
    refine ⟨fs', ?_, fun p => ?_⟩
    · rw [map_cons, extractLayer_cons_ok (extractEntry_marker (h entry (mem_cons_self ..))), hrun]
    · rcases hfs' p with hnone | hsame
      · exact .inl hnone
      · rw [hsame]
        rcases doomed fs target entry.path with _ | d
        · exact .inr rfl
        · rcases hc : d.covers p with _ | _
          · exact .inr (remove_of_not_covers hc)
          · exact .inl (remove_of_covers hc)

theorem extractLayer_unpacked {P : Fs F D L → Prop}
    (hstep : ∀ fs fs' entry, tar.unpackIn target fs entry = (fs', .ok ()) → P fs → P fs')
    (h : ∀ entry ∈ entries, entry.path.role = .unpacked) {fs' : Fs F D L}
    (hrun : extractLayer tar target targetText fs (entries.map .ok) = (fs', .ok ())) (hfs : P fs) : P fs' := by
  induction entries generalizing fs with
  | nil =>
    cases hrun
    exact hfs
  | cons entry _ ih =>
    have hrole := h entry (mem_cons_self ..)
    rw [map_cons, extractLayer_cons, extractEntry, hrole] at hrun
    rcases hu : tar.unpackIn target fs entry with ⟨fs₁, e | ⟨⟨⟩⟩⟩
    · simp [hu] at hrun
    · simp only [hu] at hrun
      exact ih (fun e he => h e (mem_cons_of_mem _ he)) hrun (hstep fs fs₁ entry hu hfs)

/-! ### Paths of names -/

theorem whiteoutPrefix_prefix_opaqueName : whiteoutPrefix <+: opaqueName := by decide +kernel

/-- An entry whose name does not begin as a marker is unpacked. -/
theorem role_names (h : ∀ n, p.getLast? = some n → ¬ whiteoutPrefix <+: n) :
    (⟨false, p.map .name⟩ : TarPath).role = .unpacked := by
  have htext : ¬ whiteoutPrefix <+: (⟨false, p.map .name⟩ : TarPath).fileNameText := by
    have hempty : ¬ whiteoutPrefix <+: [] := by decide +kernel
    rw [TarPath.fileNameText, TarPath.fileName, List.getLast?_map]
    rcases hlast : p.getLast? with _ | n
    · exact hempty
    · simp only [map_some]
      split_ifs
      · exact h n hlast
      · exact hempty
  have hopq : (⟨false, p.map .name⟩ : TarPath).fileNameText ≠ opaqueName :=
    fun heq => htext (heq ▸ whiteoutPrefix_prefix_opaqueName)
  rw [TarPath.role, if_neg (by simp), if_neg hopq, if_neg htext]

theorem isUtf8_whiteoutPrefix_append (n : Name) : isUtf8 (whiteoutPrefix ++ n) = isUtf8 n :=
  isUtf8_append_ascii (by decide +kernel)

theorem role_whiteout {n} (hn : isUtf8 n = true) (hne : whiteoutPrefix ++ n ≠ opaqueName) :
    (⟨false, p.map .name ++ [.name (whiteoutPrefix ++ n)]⟩ : TarPath).role = .whiteout (p.map .name) n := by
  have htext : (⟨false, p.map .name ++ [.name (whiteoutPrefix ++ n)]⟩ : TarPath).fileNameText = whiteoutPrefix ++ n := by
    simp [TarPath.fileNameText, TarPath.fileName, isUtf8_whiteoutPrefix_append, hn]
  rw [TarPath.role, htext, if_neg hne]
  simp [TarPath.parent]

/-- What a whiteout removes in a directory that is reached through directories. -/
theorem whiteoutDoomed_names {n} (hdirs : ∀ q, q <+: p → fs.isDir (target ++ q) = true)
    (hempty : n ≠ []) (hdot : n ≠ [dot]) (hdots : n ≠ [dot, dot]) :
    whiteoutDoomed fs target (p.map .name) n =
      if (fs (target ++ p ++ [n])).isSome then some (.tree (target ++ p ++ [n])) else none := by
  have hresolve : resolveDir fs target (p.map .name) = some (target ++ p) := by
    rw [resolveDir, resolve_directories fun q hq _ => hdirs q hq, filter_some, if_pos (hdirs p prefix_rfl)]
  simp [whiteoutDoomed, hresolve, hempty, hdot, hdots]

/-! ### Unpacking nodes -/

/-- What the `tar` crate documents for entries that are nodes, with permissions preserved and overwriting
allowed. -/
structure Tar.Unpacks (tar : Tar (Node F D L) F D L) (target : Location) : Prop where
  replaces : ∀ fs names node, names ≠ [] → fs.RealParents target names → node.isDir = false →
    fs.isDir (target ++ names) = false →
    tar.unpackIn target fs ⟨⟨false, names.map .name⟩, node⟩ = (fs.put (target ++ names) node, .ok ())
  createsDir : ∀ fs names data, names ≠ [] → fs.RealParents target names →
    (fs (target ++ names) = none ∨ fs.isDir (target ++ names) = true) →
    tar.unpackIn target fs ⟨⟨false, names.map .name⟩, .dir data⟩ = (fs.put (target ++ names) (.dir data), .ok ())
  /-- A file or a link does not replace a directory. -/
  refuses : ∀ fs names node, names ≠ [] → fs.RealParents target names → node.isDir = false →
    fs.isDir (target ++ names) = true →
    (tar.unpackIn target fs ⟨⟨false, names.map .name⟩, node⟩).2 ≠ .ok ()
  keepsDirs : ∀ fs fs' entry p, tar.unpackIn target fs entry = (fs', .ok ()) → fs.isDir p = true → fs'.isDir p = true
  keepsOthers : ∀ fs fs' entry p, tar.unpackIn target fs entry = (fs', .ok ()) → fs p ≠ none → fs.isDir p = false →
    fs' p ≠ none ∧ fs'.isDir p = false

/-- Unpacking as the laws say: the directory of an entry has to be there, inside the target. -/
def plainTar : Tar (Node F D L) F D L where
  unpackIn target fs entry :=
    match entry.path.fileName, entry.path.parent.bind (resolveDir fs target) with
    | none, _ => (fs, .ok ())
    | some _, none => (fs, .error "no parent")
    | some name, some parent =>
      if target.isPrefixOf parent = false then (fs, .error "outside")
      else if (fs (parent ++ [name])).any fun node => node.isDir != entry.body.isDir then (fs, .error "in the way")
      else (fs.put (parent ++ [name]) entry.body, .ok ())

theorem plainTar_names {fs : Fs F D L} {names : Location} {node : Node F D L} (hne : names ≠ [])
    (hparents : fs.RealParents target names) :
    plainTar.unpackIn target fs ⟨⟨false, names.map .name⟩, node⟩ =
      if (fs (target ++ names)).any fun n => n.isDir != node.isDir then (fs, .error "in the way")
      else (fs.put (target ++ names) node, .ok ()) := by
  obtain ⟨q, _, rfl⟩ := (eq_nil_or_concat' names).resolve_left hne
  have hdirs : ∀ r, r <+: q → fs.isDir (target ++ r) = true := by
    refine fun r hr => hparents r (hr.trans (prefix_append _ _)) ?_
    rintro rfl
    simpa using hr.length_le
  have hresolve : resolveDir fs target (q.map .name) = some (target ++ q) := by
    rw [resolveDir, resolve_directories fun r hr _ => hdirs r hr, filter_some, if_pos (hdirs q prefix_rfl)]
  simp [plainTar, TarPath.fileName, TarPath.parent, hresolve]

/-- What unpacking leaves at a location: what was there, or a node of the same kind, or something new. -/
theorem plainTar_at (target) (fs) (entry : TarEntry (Node F D L)) (p) :
    (plainTar.unpackIn target fs entry).1 p = fs p ∨ target <+: p ∧
      ∃ node, (plainTar.unpackIn target fs entry).1 p = some node ∧ ∀ old, fs p = some old → node.isDir = old.isDir := by
  simp only [plainTar]
  split
  · exact .inl rfl
  · exact .inl rfl
  next name parent hname hparent =>
    split_ifs with hinside hkind
    · exact .inl rfl
    · exact .inl rfl
    simp only [Fs.put]
    split_ifs with hp
    · rw [Bool.not_eq_false, isPrefixOf_iff_prefix] at hinside
      refine .inr ⟨hp ▸ hinside.trans (prefix_append _ _), _, rfl, fun old hold => ?_⟩
      rw [hp] at hold
      simp only [hold, any_some, bne_iff_ne, not_not] at hkind
      exact hkind.symm
    · exact .inl rfl

/-- Unpacking takes nothing away, and no location changes its kind. -/
theorem plainTar_kept {target : Location} {fs : Fs F D L} {entry : TarEntry (Node F D L)}
    (h : fs p ≠ none) : (plainTar.unpackIn target fs entry).1 p ≠ none ∧
      (plainTar.unpackIn target fs entry).1.isDir p = fs.isDir p := by
  obtain ⟨old, hold⟩ := ne_none_iff_exists'.1 h
  rcases plainTar_at target fs entry p with hsame | ⟨-, _, hnode, hkind⟩
  · rw [Fs.isDir, hsame]
    exact ⟨h, rfl⟩
  · rw [Fs.isDir, Fs.isDir, hnode, hold, any_some, hkind old hold]
    exact ⟨some_ne_none _, rfl⟩

theorem plainTar_unpacks (target) : (plainTar : Tar (Node F D L) F D L).Unpacks target := by
  constructor
  case replaces =>
    intro fs names node hne hparents hnode hfs
    rw [plainTar_names hne hparents]
    simpa [Fs.isDir, hnode] using hfs
  case createsDir =>
    intro fs names data hne hparents hfs
    rw [plainTar_names hne hparents]
    rcases hn : fs (target ++ names) with _ | node
    · simp
    · simpa [Fs.isDir, hn, Node.isDir] using hfs
  case refuses =>
    intro fs names node hne hparents hnode hfs
    rw [plainTar_names hne hparents, if_pos]
    · simp
    · simpa [Fs.isDir, hnode] using hfs
  case keepsDirs =>
    intro fs fs' entry p h hdir
    obtain rfl : (plainTar.unpackIn target fs entry).1 = fs' := by rw [h]
    rw [(plainTar_kept (ne_none_of_isDir hdir)).2]
    exact hdir
  case keepsOthers =>
    intro fs fs' entry p h hne hdir
    obtain rfl : (plainTar.unpackIn target fs entry).1 = fs' := by rw [h]
    rw [← hdir]
    exact plainTar_kept hne

/-! ### Staying inside -/

/-- `unpack_in` changes nothing outside the target. -/
def Tar.StaysInside (tar : Tar E F D L) (target : Location) : Prop :=
  ∀ fs entry p, ¬ target <+: p → (tar.unpackIn target fs entry).1 p = fs p

/-- Nothing outside the target differs. -/
def SameOutside (target : Location) (fs fs' : Fs F D L) : Prop := ∀ p, ¬ target <+: p → fs' p = fs p

/-- What there is below a location is inside the target. -/
def BelowInside (fs : Fs F D L) (target p : Location) : Prop := ∀ q, p <+: q → p ≠ q → fs q ≠ none → target <+: q

/-- A marker leads to nothing outside the target, in the tree as it is: the directory of an opaque marker has nothing
outside in it, and the victim of a whiteout is inside, if there is one. After `.wh.` there may be nothing, `.` or `..`:
the directory itself or the one above it. -/
def MarkerInside (fs : Fs F D L) (target : Location) (path : TarPath) : Prop :=
  let start := if path.rooted then [] else target
  match path.role with
  | .clear parent => ∀ d, resolveDir fs start parent = some d → BelowInside fs target d
  | .whiteout parent victim => ∀ d, resolveDir fs start parent = some d →
      if victim = [] ∨ victim = [dot] then
        -- without a name, a directory that is reached without a link at the end is removed with what is in it
        BelowInside fs target d ∧ (victim = [] → d ≠ [] → resolve fs false start parent = some d → target <+: d)
      else if victim = [dot, dot] then BelowInside fs target d.dropLast
      else fs (d ++ [victim]) ≠ none → target <+: d ++ [victim]
  | _ => True

/-- Every marker that is reached leads to nothing outside the target, in the tree as it is then. -/
def MarkersInside (tar : Tar E F D L) (target : Location) (targetText : String) :
    Fs F D L → List (Except Unreadable (TarEntry E)) → Prop
  | _, [] => True
  | _, .error _ :: _ => True
  | fs, .ok entry :: rest =>
    MarkerInside fs target entry.path ∧
      ((extractEntry tar target targetText fs entry).2 = .ok () →
        MarkersInside tar target targetText (extractEntry tar target targetText fs entry).1 rest)

/-- What there is of what is removed is inside the target. -/
def CoversInside (fs : Fs F D L) (target : Location) (d : Doomed) : Prop :=
  ∀ q, d.covers q = true → fs q ≠ none → target <+: q

theorem covers_tree {p q} : (Doomed.tree p).covers q = true ↔ p <+: q := isPrefixOf_iff_prefix

theorem covers_below {p q} : (Doomed.below p).covers q = true ↔ p <+: q ∧ p ≠ q := by
  simp [Doomed.covers]

theorem coversInside_below : CoversInside fs target (.below p) ↔ BelowInside fs target p := by
  simp only [CoversInside, covers_below, and_imp, BelowInside]

theorem coversInside_tree (h : fs p ≠ none) : CoversInside fs target (.tree p) ↔ target <+: p :=
  ⟨fun hall => hall p (covers_tree.2 prefix_rfl) h, fun hp _ hq _ => hp.trans (covers_tree.1 hq)⟩

theorem exists_of_resolveDir {start d path} (h : resolveDir fs start path = some d) : fs d ≠ none := by
  have hdir := (filter_eq_some_iff.1 h).2
  intro hnone
  simp [Fs.isDir, hnone] at hdir

/-- A marker leads to nothing outside the target exactly if what is removed for it is inside. -/
theorem markerInside_iff {path} :
    MarkerInside fs target path ↔ ∀ d, doomed fs target path = some d → CoversInside fs target d := by
  simp only [MarkerInside, doomed]
  split
  next parent _ => simp [coversInside_below]
  next parent victim _ =>
    rw [whiteoutDoomed]
    rcases hd : resolveDir fs (if path.rooted then [] else target) parent with _ | d
    · simp
    have hdir := exists_of_resolveDir hd
    by_cases hempty : victim = []
    · by_cases hself : d ≠ [] ∧ resolve fs false (if path.rooted then [] else target) parent = some d
      · have hbelow : target <+: d → BelowInside fs target d := fun hp _ hq _ _ => hp.trans hq
        simpa [hempty, hself, coversInside_tree hdir] using hbelow
      · have hlink : d ≠ [] → resolve fs false (if path.rooted then [] else target) parent = some d → target <+: d :=
          fun hne hd => absurd ⟨hne, hd⟩ hself
        simpa [hempty, hself, coversInside_below] using fun _ => hlink
    by_cases hdot : victim = [dot]
    · simp [hdot, coversInside_below]
    by_cases hdots : victim = [dot, dot]
    · simp [hdots, coversInside_below]
    · rcases hvictim : fs (d ++ [victim]) with _ | _
      · simp [hempty, hdot, hdots, hvictim]
      · simp [hempty, hdot, hdots, hvictim, coversInside_tree]
  · simp

variable (htar : tar.StaysInside target)

include htar

theorem extractEntry_outside (entry) (hp : ¬ target <+: p) :
    (extractEntry tar target targetText fs entry).1 p =
      match doomed fs target entry.path with
      | none => fs p
      | some d => fs.remove d p := by
  rw [extractEntry]
  split
  next hrole =>
    have hdoomed : doomed fs target entry.path = none := by simp [doomed, hrole]
    have hunpack := htar fs entry p hp
    rw [hdoomed]
    rcases hu : tar.unpackIn target fs entry with ⟨_, _ | ⟨⟨⟩⟩⟩
    · rwa [hu] at hunpack
    · rwa [hu] at hunpack
  · split <;> rfl

theorem extractLayer_outside_none (hp : ¬ target <+: p)
    (entries : List (Except Unreadable (TarEntry E))) (h : fs p = none) :
    (extractLayer tar target targetText fs entries).1 p = none := by
  induction entries generalizing fs with
  | nil => exact h
  | cons item _ ih =>
    rcases item with _ | entry
    · exact h
    have hentry : (extractEntry tar target targetText fs entry).1 p = none := by
      rw [extractEntry_outside htar entry hp]
      split
      · exact h
      · simp [Fs.remove, h]
    rw [extractLayer]
    rcases hstep : extractEntry tar target targetText fs entry with ⟨_, _ | ⟨⟨⟩⟩⟩
    · rwa [hstep] at hentry
    · rw [hstep] at hentry
      exact ih hentry

/-- An entry that removes nothing outside leaves everything outside as it is. -/
theorem extractEntry_sameOutside (entry) (h : MarkerInside fs target entry.path) :
    SameOutside target fs (extractEntry tar target targetText fs entry).1 := by
  intro p hp
  rw [extractEntry_outside htar entry hp]
  split
  · rfl
  next d hd =>
    rcases hc : d.covers p with _ | _
    · exact remove_of_not_covers hc
    · rw [remove_of_covers hc]
      by_contra hne
      exact hp (markerInside_iff.1 h d hd p hc (Ne.symm hne))

/-- What extracting one more entry adds: nothing outside differs in the end exactly if the entry removes nothing
outside and, unless it fails, nothing outside differs after the rest. -/
theorem sameOutside_cons (entry) (rest : List (Except Unreadable (TarEntry E))) :
    SameOutside target fs (extractLayer tar target targetText fs (.ok entry :: rest)).1 ↔
      MarkerInside fs target entry.path ∧
        ((extractEntry tar target targetText fs entry).2 = .ok () →
          SameOutside target (extractEntry tar target targetText fs entry).1
            (extractLayer tar target targetText (extractEntry tar target targetText fs entry).1 rest).1) := by
  have hnone := fun p hp => @extractLayer_outside_none E F D L tar target targetText
    (extractEntry tar target targetText fs entry).1 p htar hp rest
  have hsame := @extractEntry_sameOutside E F D L tar target targetText fs htar entry
  have houtside := fun p hp => @extractEntry_outside E F D L tar target targetText fs p htar entry hp
  rw [extractLayer]
  rcases hstep : extractEntry tar target targetText fs entry with ⟨fs', result⟩
  rw [hstep] at hnone hsame houtside
  -- if nothing outside differs in the end, nothing outside differs after this entry
  have hentry : (∀ p, ¬ target <+: p → fs' p = none → fs p = none) → MarkerInside fs target entry.path := by
    refine fun hend => markerInside_iff.2 fun d hd q hq hne => ?_
    by_contra hp
    refine hne (hend q hp ?_)
    have hremoved := houtside q hp
    rw [hd] at hremoved
    exact hremoved.trans (remove_of_covers hq)
  rcases result with _ | ⟨⟨⟩⟩
  · constructor
    · exact fun h => ⟨hentry fun p hp hq => (h p hp).symm.trans hq, fun hok => by simp at hok⟩
    · exact fun h => hsame h.1
  · constructor
    · intro h
      have hinside := hentry fun p hp hq => (h p hp).symm.trans (hnone p hp hq)
      refine ⟨hinside, fun _ p hp => ?_⟩
      exact (h p hp).trans (hsame hinside p hp).symm
    · intro h p hp
      exact (h.2 rfl p hp).trans (hsame h.1 p hp)

omit htar

/-- **Extraction stays inside the target** exactly if every marker that is reached leads to nothing outside it. -/
theorem extract_confined_iff (htar : tar.StaysInside target) (entries : List (Except Unreadable (TarEntry E))) :
    SameOutside target fs (extractLayer tar target targetText fs entries).1 ↔
      MarkersInside tar target targetText fs entries := by
  induction entries generalizing fs with
  | nil => simp [extractLayer, MarkersInside, SameOutside]
  | cons item _ ih =>
    rcases item with _ | _
    · simp [extractLayer, MarkersInside, SameOutside]
    · rw [sameOutside_cons htar]
      exact and_congr_right fun _ => imp_congr_right fun _ => ih

/-! ### A marker behind a link -/

/-- A directory with a link to a directory outside it. -/
def linkedTree : Fs Unit Unit Unit := fun p =>
  if p ∈ [[], [utf8 "etc"], [utf8 "root"]] then some (.dir ())
  else if p = [utf8 "etc", utf8 "passwd"] then some (.file ())
  else if p = [utf8 "root", utf8 "link"] then some (.link (utf8 "/etc") ())
  else none

theorem plainTar_staysInside (target) : (plainTar : Tar (Node F D L) F D L).StaysInside target := by
  intro fs entry p hp
  exact (plainTar_at target fs entry p).resolve_right fun hput => hp hput.1

/-- The entry `.wh.<victim>` in the directory `parent`. -/
def whiteoutEntry (parent : List Comp) (victim : String) : TarEntry (Node Unit Unit Unit) :=
  ⟨⟨false, parent ++ [.name (utf8 (".wh." ++ victim))]⟩, .file ()⟩

/-- `extract_confined_iff` at a file, a marker for the link next to it, and a marker that empties the target. -/
theorem extract_confined_beside_link :
    SameOutside [utf8 "root"] linkedTree (extractLayer plainTar [utf8 "root"] "root" linkedTree
      [.ok ⟨⟨false, [.name (utf8 "file")]⟩, .file ()⟩, .ok (whiteoutEntry [] "link"),
        .ok (whiteoutEntry [] ".wh..opq")]).1 := by
  have hfile : (⟨false, [.name (utf8 "file")]⟩ : TarPath).role = .unpacked := by decide +kernel
  have hlink : (whiteoutEntry [] "link").path.role = .whiteout [] (utf8 "link") := by decide +kernel
  have hopaque : (whiteoutEntry [] ".wh..opq").path.role = .clear [] := by decide +kernel
  refine (extract_confined_iff (plainTar_staysInside _) _).2 ⟨?_, fun _ => ⟨?_, fun _ => ⟨?_, fun _ => trivial⟩⟩⟩
  · simp only [MarkerInside, hfile]
  · simp only [MarkerInside, hlink]
    intro d hd
    cases hd
    rw [if_neg (by decide +kernel), if_neg (by decide +kernel)]
    exact fun _ => ⟨[utf8 "link"], rfl⟩
  · simp only [MarkerInside, hopaque]
    intro d hd
    cases hd
    exact fun q hq _ _ => hq

/-- A marker whose directory is a link removes a file outside the target. -/
theorem whiteout_through_link : (plainTar : Tar (Node Unit Unit Unit) Unit Unit Unit).StaysInside [utf8 "root"] ∧
      ¬ SameOutside [utf8 "root"] linkedTree (extractLayer plainTar [utf8 "root"] "root" linkedTree
        [.ok (whiteoutEntry [.name (utf8 "link")] "passwd")]).1 := by
  refine ⟨plainTar_staysInside _, fun h => ?_⟩
  have hpasswd := h [utf8 "etc", utf8 "passwd"] (by decide +kernel)
  cases hpasswd

end A3sBox.Image
