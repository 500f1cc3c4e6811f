import A3sBox.Build.Layer

/-!
# What the layer of a RUN step restores

The disk holds a copy of the rootfs before the step (`Holds`), and the layer of the step is extracted onto it by
`Image.extractLayer`, where `tar` does what it documents (`Tar.Unpacks`). After some of the changed files the disk is
`unpacked`, after some of the whiteouts it is `pruned`.

`runLayer_roundTrip_iff`: then there is the rootfs after the step exactly if snapshots and archive can tell the step
(`Captured`). `directory_to_file` is one that they cannot.
-/

namespace A3sBox.Build

open PosixFs Text Image List Option

variable {before after : Rootfs}

/-! ### The round trip -/

variable {linkName : List UInt8 → List UInt8} {tar : Tar DiskNode FileState Perm Unit} {target : Location}
  {targetText : String} {disk : Disk}

/-- A rootfs is on the disk. -/
def Holds (disk : Disk) (target : Location) (rootfs : Rootfs) : Prop :=
  ∀ p, disk (target ++ p) = (rootfs.get p).map diskNode

/-- Extracting the layer succeeds, and leaves the rootfs after the step. -/
def RoundTrip (linkName : List UInt8 → List UInt8) (tar : Tar DiskNode FileState Perm Unit) (target : Location)
    (targetText : String) (disk : Disk) (before after : Rootfs) : Prop :=
  ∃ disk', extractLayer tar target targetText disk ((runLayer linkName before after).map .ok) = (disk', .ok ()) ∧
    Holds disk' target after

/-- No name that a layer has to carry is the name of a marker: no changed path is named `.wh.<name>`, and no deleted
one `.wh..opq`, whose whiteout would be an opaque marker. -/
structure NoMarkers (before after : Rootfs) : Prop where
  changed : ∀ p n, p ++ [n] ∈ changedFiles before after → ¬ whiteoutPrefix <+: n
  deleted : ∀ p, p ++ [utf8 ".wh..opq"] ∉ deletedFiles before after

/-- Files of the same size, modification time and mode have the same content. -/
def SameContent (before after : Rootfs) : Prop :=
  ∀ p f f', before.get p = some (.file f) → after.get p = some (.file f') → ¬ Differs (.file f) (.file f') →
    f.content = f'.content

/-- Nothing changes between a directory and something else. -/
def SameKinds (before after : Rootfs) : Prop :=
  ∀ p x y, before.get p = some x → after.get p = some y → x.isDir = y.isDir

/-- A link with another text has another length or modification time. -/
def SameLinks (before after : Rootfs) : Prop :=
  ∀ p text text' i i', before.get p = some (.link text i) → after.get p = some (.link text' i') →
    text.length = text'.length → i.mtime.toNat = i'.mtime.toNat → text = text'

/-- What the snapshots and the archive can tell of a step. -/
structure Captured (linkName : List UInt8 → List UInt8) (before after : Rootfs) : Prop where
  /-- Nothing changes between a directory and something else. -/
  kinds : SameKinds before after
  /-- A link with another text has another length or modification time. -/
  links : SameLinks before after
  /-- The archive keeps the text of a link, unless the link was there before. -/
  linkNames : ∀ p text i, after.get p = some (.link text i) →
    linkName text = text ∨ ∃ i', before.get p = some (.link text i') ∧ i'.mtime.toNat = i.mtime.toNat
  /-- A name that is deleted from a directory that stays is text. -/
  names : ∀ p n, before.get (p ++ [n]) ≠ none → after.get (p ++ [n]) = none → after.get p ≠ none → isUtf8 n = true
  root : before.root.perm = after.root.perm

variable {x y node : RootfsNode} {p d q : Location} {done rest files : List Location} {n : Name}
  {entry : TarEntry DiskNode} {text : List UInt8} {i : LinkInfo} {name : String}

theorem statMode_isDir (h : statMode x = statMode y) : x.isDir = y.isDir := by
  rcases x with _ | _ | ⟨_, _⟩ <;> rcases y with _ | _ | ⟨_, _⟩ <;> simp only [statMode, Node.isDir] at h ⊢ <;> omega

/-! ### Unpacking the changed files -/

/-- What is on the disk when the files `done` are unpacked. -/
def unpacked (linkName : List UInt8 → List UInt8) (before after : Rootfs) (done : List Location) (p : Location) :
    Option DiskNode :=
  if p ∈ done then (after.get p).map fun node => archived linkName (diskNode node) else (before.get p).map diskNode

theorem isDir_diskNode (node) : (diskNode node).isDir = node.isDir := by cases node <;> rfl

theorem isDir_archived (node : DiskNode) : (archived linkName node).isDir = node.isDir := by cases node <;> rfl

theorem unchanged (hp : p ≠ []) (hy : after.get p = some y) (h : p ∉ changedFiles before after) :
    ∃ x, before.get p = some x ∧ ¬ Differs x y := by
  rw [mem_changedFiles] at h
  push Not at h
  exact h hp y hy

theorem isDir_eq_of_not_differs (h : ¬ Differs x y) : x.isDir = y.isDir := by
  simp only [Differs, not_or, not_not] at h
  exact statMode_isDir h.2.2

/-- A directory of the rootfs after the step is there once it is unpacked, if it has to be. -/
theorem unpacked_isDir (hy : (after.get p).any Node.isDir = true) (h : p ∈ done ∨ p ∉ changedFiles before after) :
    (unpacked linkName before after done p).any Node.isDir = true := by
  obtain ⟨_, hy, hdir⟩ := (any_eq_true _ _).1 hy
  rw [unpacked]
  split_ifs with hdone
  · simp [hy, isDir_archived, isDir_diskNode, hdir]
  · by_cases hp : p = []
    · simp [hp, FileTree.get, diskNode, Node.isDir]
    · obtain ⟨_, hx, hsame⟩ := unchanged hp hy (h.resolve_left hdone)
      simp [hx, isDir_diskNode, isDir_eq_of_not_differs hsame, hdir]

theorem unpacked_kind (hkinds : SameKinds before after) {z} (hy : after.get p = some y)
    (hz : unpacked linkName before after done p = some z) : z.isDir = y.isDir := by
  rw [unpacked] at hz
  split_ifs at hz
  · rw [hy, map_some, some.injEq] at hz
    rw [← hz, isDir_archived, isDir_diskNode]
  · obtain ⟨x, hx, rfl⟩ := map_eq_some_iff.1 hz
    rw [isDir_diskNode, hkinds p x y hx hy]

/-- The disk below a location. -/
def At (disk : Disk) (target : Location) (nodes : Location → Option DiskNode) : Prop :=
  ∀ p, disk (target ++ p) = nodes p

theorem isDir_at {nodes} (h : At disk target nodes) (p) :
    disk.isDir (target ++ p) = (nodes p).any Node.isDir := by
  rw [Fs.isDir, h p]

theorem realParents_unpacked (hsplit : changedFiles before after = done ++ p :: rest) (hy : after.get p = some y)
    (hdisk : At disk target (unpacked linkName before after done)) : disk.RealParents target p := by
  intro q hq hne
  rw [isDir_at hdisk]
  obtain ⟨r, rfl⟩ := hq
  have hr : r ≠ [] := by
    rintro rfl
    simp at hne
  exact unpacked_isDir (FileTree.isDir_above hr (by simp [hy])) (parent_done hsplit (prefix_append _ _) hne)

theorem role_changedEntry (hmarkers : NoMarkers before after) (hp : p ∈ changedFiles before after) (node) :
    (changedEntry linkName p node).path.role = .unpacked := by
  refine role_names fun n hn => ?_
  obtain ⟨q, rfl⟩ := getLast?_eq_some_iff.1 hn
  exact hmarkers.changed q n hp

theorem extract_changed (htar : tar.Unpacks target) (hmarkers : NoMarkers before after)
    (hkinds : SameKinds before after) (hsplit : changedFiles before after = done ++ p :: rest)
    (hy : after.get p = some y)
    (hdisk : At disk target (unpacked linkName before after done)) :
    ∃ disk', extractEntry tar target targetText disk (changedEntry linkName p y) = (disk', .ok ()) ∧
      At disk' target (unpacked linkName before after (done ++ [p])) := by
  have hp : p ∈ changedFiles before after := by simp [hsplit]
  have hne : p ≠ [] := (mem_changedFiles.1 hp).1
  have hparents := realParents_unpacked hsplit hy hdisk
  have hunpack : tar.unpackIn target disk (changedEntry linkName p y) =
      (disk.put (target ++ p) (archived linkName (diskNode y)), .ok ()) := by
    have hkind := fun z => @unpacked_kind before after linkName y p done hkinds z hy
    rw [← hdisk p] at hkind
    cases hdir : y.isDir with
    | false =>
      refine htar.replaces disk p _ hne hparents ?_ ?_
      · rw [isDir_archived, isDir_diskNode, hdir]
      · rw [Fs.isDir, Option.any_eq_false]
        intro z hz
        rw [hkind z hz, hdir]
    | true =>
      cases y with
      | dir =>
        refine htar.createsDir disk p _ hne hparents ?_
        rcases hz : disk (target ++ p) with _ | z
        · exact .inl rfl
        · exact .inr (by rw [Fs.isDir, hz]; exact (hkind z hz).trans hdir)
      | file _ | link _ _ => simp [Node.isDir] at hdir
  refine ⟨_, by rw [extractEntry, role_changedEntry hmarkers hp, hunpack], fun q => ?_⟩
  rw [Fs.put, unpacked]
  by_cases hq : q = p
  · simp [hq, hy]
  · simp [hq, hdisk q, unpacked]

theorem extract_changedFiles (htar : tar.Unpacks target) (hmarkers : NoMarkers before after)
    (hkinds : SameKinds before after) (hsplit : changedFiles before after = done ++ rest)
    (hdisk : At disk target (unpacked linkName before after done)) :
    ∃ disk', extractLayer tar target targetText disk
        ((rest.filterMap fun p => (after.get p).map (changedEntry linkName p)).map .ok) = (disk', .ok ()) ∧
      At disk' target (unpacked linkName before after (changedFiles before after)) := by
  induction rest generalizing done disk with
  | nil =>
    rw [hsplit, append_nil]
    exact ⟨disk, rfl, hdisk⟩
  | cons p rest ih =>
    obtain ⟨-, y, hy, -⟩ := mem_changedFiles.1 (show p ∈ changedFiles before after by simp [hsplit])
    obtain ⟨disk₁, hentry, hdisk₁⟩ :=
      @extract_changed before after linkName tar target targetText disk y p done rest htar hmarkers hkinds hsplit hy hdisk
    obtain ⟨disk', hrun, hdisk'⟩ := @ih disk₁ (done ++ [p]) (by simp [hsplit]) hdisk₁
    refine ⟨disk', ?_, hdisk'⟩
    rw [filterMap_cons, hy, map_some, map_cons, extractLayer_cons_ok hentry, hrun]

/-! ### Whiteouts -/

/-- The path that the whiteout for a path removes. -/
def victim (path : Location) : Location := path.dropLast ++ (path.getLast?.map utf8Lossy).toList

theorem victim_concat (q : Location) (n : Name) : victim (q ++ [n]) = q ++ [utf8Lossy n] := by simp [victim]

/-- What is on the disk when the files are unpacked and the whiteouts for `done` are applied. -/
def pruned (linkName : List UInt8 → List UInt8) (before after : Rootfs) (done : List Location) (p : Location) :
    Option DiskNode :=
  if done.any fun d => (victim d).isPrefixOf p then none
  else unpacked linkName before after (changedFiles before after) p

/-- The whiteouts remove nothing that the step leaves. -/
def Harmless (after : Rootfs) (done : List Location) : Prop :=
  ∀ d ∈ done, ∀ p, after.get p ≠ none → ¬ victim d <+: p

theorem pruned_of_covered (hd : d ∈ done) (h : victim d <+: p) : pruned linkName before after done p = none := by
  rw [pruned, if_pos]
  exact any_eq_true.2 ⟨d, hd, isPrefixOf_iff_prefix.2 h⟩

theorem pruned_of_not_covered (h : ∀ d ∈ done, ¬ victim d <+: p) :
    pruned linkName before after done p = unpacked linkName before after (changedFiles before after) p := by
  rw [pruned, if_neg]
  rw [List.any_eq_true]
  rintro ⟨d, hd, hpre⟩
  exact h d hd (List.isPrefixOf_iff_prefix.1 hpre)

theorem unpacked_eq_none :
    unpacked linkName before after (changedFiles before after) p = none ↔ before.get p = none ∧ after.get p = none := by
  rw [unpacked]
  split_ifs with hp
  · obtain ⟨-, _, hy, -⟩ := mem_changedFiles.1 hp
    simp [hy]
  · rw [map_eq_none_iff]
    constructor
    · intro hbefore
      refine ⟨hbefore, ?_⟩
      rcases hy : after.get p with _ | _
      · rfl
      · have hne : p ≠ [] := by
          rintro rfl
          simp [FileTree.get] at hbefore
        obtain ⟨_, hx, -⟩ := unchanged hne hy hp
        simp [hbefore] at hx
    · exact And.left

theorem get_none_below {rootfs : Rootfs} (h : p <+: q) (hp : rootfs.get p = none) : rootfs.get q = none := by
  obtain ⟨r, rfl⟩ := h
  by_cases hr : r = []
  · simpa [hr] using hp
  · by_contra hq
    have hdir := FileTree.isDir_above hr hq
    simp [hp] at hdir

theorem pruned_none_below (h : p <+: q) (hp : pruned linkName before after done p = none) :
    pruned linkName before after done q = none := by
  by_cases hcovered : ∃ d ∈ done, victim d <+: q
  · obtain ⟨d, hd, hpre⟩ := hcovered
    exact pruned_of_covered hd hpre
  · push Not at hcovered
    rw [pruned_of_not_covered fun d hd hpre => hcovered d hd (hpre.trans h), unpacked_eq_none] at hp
    rw [pruned_of_not_covered hcovered, unpacked_eq_none]
    exact ⟨get_none_below h hp.1, get_none_below h hp.2⟩

theorem pruned_append : pruned linkName before after (done ++ [d]) p =
      if victim d <+: p then none else pruned linkName before after done p := by
  simp only [pruned]
  by_cases h : victim d <+: p <;> simp [h]

variable (hmarkers : NoMarkers before after)

include hmarkers

theorem whiteout_concat (h : q ++ [n] ∈ deletedFiles before after) :
    ∃ entry, whiteout (q ++ [n]) = some entry ∧ entry.path.rooted = false ∧
      entry.path.role = .whiteout (q.map .name) (utf8Lossy n) := by
  have hentry : whiteout (q ++ [n]) =
      some ⟨⟨false, q.map .name ++ [.name (whiteoutPrefix ++ utf8Lossy n)]⟩, .file ⟨[], 0o644⟩⟩ := by
    simp [whiteout]
  refine ⟨_, hentry, rfl, role_whiteout (isUtf8_utf8Lossy n) fun hopq => ?_⟩
  -- only this name gives the name of the other marker
  have hlossy : utf8Lossy n = utf8 ".wh..opq" :=
    append_cancel_left (hopq.trans (show opaqueName = whiteoutPrefix ++ utf8 ".wh..opq" by decide +kernel))
  have hn : n = utf8 ".wh..opq" := by
    rw [← hlossy]
    exact eq_utf8Lossy_of_ascii (by rw [hlossy]; decide +kernel)
  exact hmarkers.deleted q (hn ▸ h)

omit hmarkers in
/-- The directory of a deleted file is there, reached through directories. -/
theorem isDir_pruned (hkinds : SameKinds before after) (hharmless : Harmless after done)
    (hbefore : before.get (q ++ [n]) ≠ none) (hafter : after.get q ≠ none) {r : Location} (hr : r <+: q) :
    (pruned linkName before after done r).any Node.isDir = true := by
  have hdir : (after.get r).any Node.isDir = true := by
    obtain ⟨s, rfl⟩ := hr
    by_cases hs : s = []
    · subst hs
      rw [append_nil] at hbefore hafter
      obtain ⟨x, hx, hxdir⟩ := (Option.any_eq_true _ _).1 (FileTree.isDir_above (by simp) hbefore)
      obtain ⟨y, hy⟩ := Option.ne_none_iff_exists'.1 hafter
      rw [hy, Option.any_some, ← hkinds r x y hx hy, hxdir]
    · exact FileTree.isDir_above hs hafter
  have hnone : after.get r ≠ none := by
    intro hnone
    simp [hnone] at hdir
  rw [pruned_of_not_covered fun d hd => hharmless d hd r hnone]
  exact unpacked_isDir hdir (Classical.em _)

theorem extract_whiteout (hkinds : SameKinds before after)
    (hharmless : Harmless after done) (hd : d ∈ deletedFiles before after)
    (hdisk : At disk target (pruned linkName before after done)) :
    ∃ entry disk', whiteout d = some entry ∧ entry.path.role ≠ .unpacked ∧
      extractEntry tar target targetText disk entry = (disk', .ok ()) ∧
      At disk' target (pruned linkName before after (done ++ [d])) := by
  obtain ⟨hne, hbefore, _, hparent⟩ := mem_deletedFiles.1 hd
  obtain ⟨q, n, rfl⟩ := (eq_nil_or_concat' d).resolve_left hne
  rw [dropLast_concat] at hparent
  obtain ⟨entry, hentry, hrooted, hrole⟩ := whiteout_concat hmarkers hd
  have hvalid := FileTree.validName_of_get hbefore n (by simp)
  have hascii : ∀ s : Name, (∀ b ∈ s, b < 0x80) → n ≠ s → utf8Lossy n ≠ s := by
    rintro s hs hns rfl
    exact hns (eq_utf8Lossy_of_ascii hs)
  have hdoomed : doomed disk target entry.path =
      if (disk (target ++ q ++ [utf8Lossy n])).isSome then some (.tree (target ++ q ++ [utf8Lossy n])) else none := by
    simp only [doomed, hrooted, hrole, Bool.false_eq_true, if_false]
    refine whiteoutDoomed_names (fun r hr => ?_) (hascii _ (by simp) hvalid.1)
      (hascii _ (by decide +kernel) hvalid.2.1) (hascii _ (by decide +kernel) hvalid.2.2.1)
    rw [isDir_at hdisk]
    exact isDir_pruned hkinds hharmless hbefore hparent hr
  have hmarker : entry.path.role ≠ .unpacked := by simp [hrole]
  refine ⟨entry, _, hentry, hmarker, extractEntry_marker hmarker, fun p => ?_⟩
  have hlocation : target ++ q ++ [utf8Lossy n] = target ++ victim (q ++ [n]) := by simp [victim_concat]
  rw [hdoomed, pruned_append, hlocation]
  split_ifs with hsome hp hp
  · exact remove_of_covers (List.isPrefixOf_iff_prefix.2 ((prefix_append_right_inj _).2 hp))
  · rw [← hdisk p]
    apply remove_of_not_covers
    rw [Bool.eq_false_iff]
    exact fun hcovers => hp ((prefix_append_right_inj _).1 (List.isPrefixOf_iff_prefix.1 hcovers))
  · rw [not_isSome_iff_eq_none, hdisk] at hsome
    exact (hdisk p).trans (pruned_none_below hp hsome)
  · exact hdisk p

theorem role_of_whiteout (hfiles : ∀ d ∈ files, d ∈ deletedFiles before after)
    (h : entry ∈ files.filterMap whiteout) : entry.path.role ≠ .unpacked := by
  obtain ⟨d, hmem, hentry⟩ := mem_filterMap.1 h
  have hd := hfiles d hmem
  have hne := (mem_deletedFiles.1 hd).1
  obtain ⟨_, _, rfl⟩ := (eq_nil_or_concat' d).resolve_left hne
  obtain ⟨_, hentry', -, hrole⟩ := whiteout_concat hmarkers hd
  rw [hentry, some.injEq] at hentry'
  simp [hentry', hrole]

/-- The whiteouts are applied in turn; if one is harmful, something that the step leaves is missing in the end. -/
theorem extract_deletedFiles (hkinds : SameKinds before after)
    (hrest : ∀ d ∈ rest, d ∈ deletedFiles before after) (hharmless : Harmless after done)
    (hdisk : At disk target (pruned linkName before after done)) :
    ∃ disk', extractLayer tar target targetText disk ((rest.filterMap whiteout).map .ok) = (disk', .ok ()) ∧
      (Harmless after (done ++ rest) ∧ At disk' target (pruned linkName before after (done ++ rest)) ∨
        ¬ Harmless after (done ++ rest) ∧ ∃ p, after.get p ≠ none ∧ disk' (target ++ p) = none) := by
  induction rest generalizing done disk with
  | nil =>
    rw [append_nil]
    exact ⟨disk, rfl, .inl ⟨hharmless, hdisk⟩⟩
  | cons d rest ih =>
    obtain ⟨_, disk₁, hentry, -, hstep, hdisk₁⟩ := @extract_whiteout before after linkName tar target targetText disk
      d done hmarkers hkinds hharmless (hrest d (mem_cons_self ..)) hdisk
    have hrest' : ∀ d' ∈ rest, d' ∈ deletedFiles before after := fun d' hd' => hrest d' (mem_cons_of_mem _ hd')
    rw [filterMap_cons, hentry, map_cons, extractLayer_cons_ok hstep]
    by_cases hd : ∀ p, after.get p ≠ none → ¬ victim d <+: p
    · have hharmless₁ : Harmless after (done ++ [d]) := by
        intro d' hd'
        rcases mem_append.1 hd' with hd' | hd'
        · exact hharmless d' hd'
        · rw [mem_singleton.1 hd']
          exact hd
      obtain ⟨disk', hrun, hend⟩ := ih hrest' hharmless₁ hdisk₁
      rw [append_assoc] at hend
      exact ⟨disk', hrun, hend⟩
    · push Not at hd
      obtain ⟨p, hp, hvictim⟩ := hd
      obtain ⟨disk', hrun, hend⟩ := @extractLayer_markers _ _ _ _ tar target targetText disk₁ (rest.filterMap whiteout)
        fun _ => role_of_whiteout hmarkers hrest'
      refine ⟨disk', hrun, .inr ⟨fun h => h d (by simp) p hp hvictim, p, hp, ?_⟩⟩
      have hnone : disk₁ (target ++ p) = none := (hdisk₁ p).trans (pruned_of_covered (by simp) hvictim)
      rcases hend (target ++ p) with h | h
      · exact h
      · exact h.trans hnone

omit hmarkers

/-! ### The whole layer -/

theorem map_runLayer : (runLayer linkName before after).map .ok =
    ((changedFiles before after).filterMap fun p => (after.get p).map (changedEntry linkName p)).map
        (@Except.ok Unreadable _) ++
      ((deletedFiles before after).filterMap whiteout).map .ok := by
  rw [runLayer, createLayer, map_append]

variable (htar : tar.Unpacks target)

include htar

/-- If no path changes between a directory and something else, extracting succeeds, and the result is known. -/
theorem roundTrip_iff_pruned (hholds : Holds disk target before)
    (hmarkers : NoMarkers before after) (hkinds : SameKinds before after) :
    RoundTrip linkName tar target targetText disk before after ↔
      Harmless after (deletedFiles before after) ∧
        ∀ p, pruned linkName before after (deletedFiles before after) p = (after.get p).map diskNode := by
  have hstart : At disk target (unpacked linkName before after []) := fun p => by simp [unpacked, hholds p]
  obtain ⟨disk₁, hchanged, hdisk₁⟩ := @extract_changedFiles before after linkName tar target targetText disk []
    (changedFiles before after) htar hmarkers hkinds rfl hstart
  have hpruned : At disk₁ target (pruned linkName before after []) := hdisk₁
  obtain ⟨disk₂, hdeleted, hend⟩ := @extract_deletedFiles before after linkName tar target targetText disk₁ []
    (deletedFiles before after) hmarkers hkinds (fun _ => id) (by simp [Harmless]) hpruned
  have hrun : extractLayer tar target targetText disk ((runLayer linkName before after).map .ok) = (disk₂, .ok ()) := by
    rw [map_runLayer, extractLayer_append_ok]
    exact ⟨disk₁, hchanged, hdeleted⟩
  constructor
  · rintro ⟨_, hrun', hholds'⟩
    rw [hrun] at hrun'
    obtain ⟨rfl, -⟩ := hrun'
    obtain ⟨hharmless, hdisk₂⟩ | ⟨-, p, hp, hnone⟩ := hend
    · exact ⟨hharmless, fun p => (hdisk₂ p).symm.trans (hholds' p)⟩
    · rw [hholds' p, map_eq_none_iff] at hnone
      exact absurd hnone hp
  · rintro ⟨hharmless, heq⟩
    obtain ⟨-, hdisk₂⟩ | ⟨hharmful, -⟩ := hend
    · exact ⟨disk₂, hrun, fun p => (hdisk₂ p).trans (heq p)⟩
    · exact absurd hharmless hharmful

omit htar in
theorem role_of_changed (hmarkers : NoMarkers before after) (hfiles : ∀ p ∈ files, p ∈ changedFiles before after)
    (h : entry ∈ files.filterMap fun p => (after.get p).map (changedEntry linkName p)) :
    entry.path.role = .unpacked := by
  obtain ⟨p, hp, hentry⟩ := mem_filterMap.1 h
  obtain ⟨node, -, rfl⟩ := map_eq_some_iff.1 hentry
  exact role_changedEntry hmarkers (hfiles p hp) node

omit htar in
theorem mem_changedFiles_of_kind (hx : before.get p = some x) (hy : after.get p = some y) (hne : x.isDir ≠ y.isDir) :
    p ∈ changedFiles before after := by
  refine mem_changedFiles.2 ⟨?_, y, hy, fun x' hx' => ?_⟩
  · rintro rfl
    simp only [FileTree.get, if_true, some.injEq] at hx hy
    exact hne (by rw [← hx, ← hy]; rfl)
  · rw [hx, some.injEq] at hx'
    subst hx'
    by_contra hsame
    exact hne (isDir_eq_of_not_differs hsame)

/-- A directory stays one until what takes its place is unpacked, and that fails. -/
theorem not_extracted_of_dir (hholds : Holds disk target before) (hmarkers : NoMarkers before after)
    (hx : before.get p = some x) (hy : after.get p = some y) (hxdir : x.isDir = true) (hydir : y.isDir = false)
    (disk₁ : Disk) :
    extractLayer tar target targetText disk
      (((changedFiles before after).filterMap fun p => (after.get p).map (changedEntry linkName p)).map .ok) ≠
        (disk₁, .ok ()) := by
  intro hrun
  have hchanged := mem_changedFiles_of_kind hx hy (by simp [hxdir, hydir])
  obtain ⟨_, _, hsplit⟩ := append_of_mem hchanged
  rw [hsplit, filterMap_append, map_append, extractLayer_append_ok] at hrun
  obtain ⟨disk₀, hrun₀, hrun⟩ := hrun
  have hdirs : ∀ q, q <+: p → disk₀.isDir (target ++ q) = true := by
    intro q hq
    refine extractLayer_unpacked (fun fs fs' entry => htar.keepsDirs fs fs' entry (target ++ q))
      (fun entry => role_of_changed hmarkers fun _ hmem => by simp [hsplit, hmem]) hrun₀ ?_
    rw [Fs.isDir, hholds q]
    obtain ⟨r, rfl⟩ := hq
    by_cases hr : r = []
    · subst hr
      rw [append_nil] at hx
      simp [hx, isDir_diskNode, hxdir]
    · have habove := FileTree.isDir_above hr (show before.get (q ++ r) ≠ none by simp [hx])
      obtain ⟨_, hz, hzdir⟩ := (any_eq_true _ _).1 habove
      simp [hz, isDir_diskNode, hzdir]
  have hrefuses := htar.refuses disk₀ p (archived linkName (diskNode y)) (mem_changedFiles.1 hchanged).1
    (fun q hq _ => hdirs q hq) (by rw [isDir_archived, isDir_diskNode, hydir]) (hdirs p prefix_rfl)
  rw [filterMap_cons, hy, map_some, map_cons, extractLayer_cons, extractEntry,
    role_changedEntry hmarkers hchanged] at hrun
  rcases hu : tar.unpackIn target disk₀ (changedEntry linkName p y) with ⟨_, _ | ⟨⟨⟩⟩⟩
  · simp [hu] at hrun
  · rw [changedEntry] at hu
    exact hrefuses (by rw [hu])

/-- What is no directory does not become one: unpacking leaves no directory there, and markers create nothing. -/
theorem not_isDir_of_extracted (hmarkers : NoMarkers before after)
    (hp : disk p ≠ none) (hdir : disk.isDir p = false) {disk₂}
    (hrun : extractLayer tar target targetText disk ((runLayer linkName before after).map .ok) = (disk₂, .ok ())) :
    disk₂.isDir p = false := by
  rw [map_runLayer, extractLayer_append_ok] at hrun
  obtain ⟨disk₁, hrun₁, hrun₂⟩ := hrun
  have hother : disk₁ p ≠ none ∧ disk₁.isDir p = false := by
    refine @extractLayer_unpacked _ _ _ _ tar target targetText disk _ (fun fs => fs p ≠ none ∧ fs.isDir p = false)
      (fun fs fs' entry hu hfs => htar.keepsOthers fs fs' entry p hu hfs.1 hfs.2)
      (fun entry => role_of_changed hmarkers fun _ => id) disk₁ hrun₁ ⟨hp, hdir⟩
  obtain ⟨_, hrun', hmarkers⟩ := @extractLayer_markers _ _ _ _ tar target targetText disk₁
    ((deletedFiles before after).filterMap whiteout) fun _ => role_of_whiteout hmarkers fun _ => id
  rw [hrun₂] at hrun'
  obtain ⟨rfl, -⟩ := hrun'
  rcases hmarkers p with hnone | hsame
  · simp [Fs.isDir, hnone]
  · rw [Fs.isDir, hsame]
    exact hother.2

/-- A step that its layer restores changes no path between a directory and something else. -/
theorem sameKinds_of_roundTrip (hholds : Holds disk target before) (hmarkers : NoMarkers before after)
    (h : RoundTrip linkName tar target targetText disk before after) : SameKinds before after := by
  intro p x y hx hy
  obtain ⟨disk₂, hrun, hholds₂⟩ := h
  have hydir : disk₂.isDir (target ++ p) = y.isDir := by
    rw [Fs.isDir, hholds₂ p, hy, map_some, any_some, isDir_diskNode]
  rcases hxdir : x.isDir with _ | _
  · have hxdisk : disk (target ++ p) = some (diskNode x) := by rw [hholds p, hx, map_some]
    have hstays := not_isDir_of_extracted htar hmarkers (show disk (target ++ p) ≠ none by simp [hxdisk])
      (by rw [Fs.isDir, hxdisk, any_some, isDir_diskNode, hxdir]) hrun
    rw [← hydir, hstays]
  · by_contra hne
    rw [map_runLayer, extractLayer_append_ok] at hrun
    obtain ⟨disk₁, hrun₁, -⟩ := hrun
    exact not_extracted_of_dir htar hholds hmarkers hx hy hxdir (by simpa using Ne.symm hne) disk₁ hrun₁

omit htar

/-! ### What is captured is restored -/

theorem mtime_link_of_not_differs (h : ¬ Differs x (.link text i)) :
    ∃ text' i', x = .link text' i' ∧ text'.length = text.length ∧ i'.mtime.toNat = i.mtime.toNat := by
  simp only [Differs, not_or, not_not] at h
  obtain ⟨hsize, hmtime, hmode⟩ := h
  rcases x with _ | _ | ⟨text', i'⟩
  · simp only [statMode] at hmode
    omega
  · simp only [statMode] at hmode
    omega
  · exact ⟨text', i', rfl, hsize, hmtime⟩

theorem link_unchanged {text' i'} (hx : before.get p = some (.link text' i'))
    (hy : after.get p = some (.link text i)) (hlength : text'.length = text.length)
    (hmtime : i'.mtime.toNat = i.mtime.toNat) : p ∉ changedFiles before after := by
  intro h
  obtain ⟨-, _, hy', hdiffers⟩ := mem_changedFiles.1 h
  rw [hy, some.injEq] at hy'
  subst hy'
  rcases hdiffers _ hx with h | h | h
  · exact h hlength
  · exact h hmtime
  · exact h rfl

theorem diskNode_eq_of_not_differs (hsame : SameContent before after) (hlinks : SameLinks before after)
    (hx : before.get p = some x) (hy : after.get p = some y) (h : ¬ Differs x y) : diskNode x = diskNode y := by
  have hdiffers := h
  simp only [Differs, not_or, not_not] at h
  obtain ⟨hsize, hmtime, hmode⟩ := h
  rcases x with f | d | ⟨text, i⟩ <;> rcases y with f' | d' | ⟨text', i'⟩ <;> simp only [statMode] at hmode
  case file.file =>
    have hperm : f.perm = f'.perm := Fin.ext (by omega)
    simp [diskNode, hperm, hsame p f f' hx hy hdiffers]
  case dir.dir =>
    have hperm : d.perm = d'.perm := Fin.ext (by omega)
    simp [diskNode, hperm]
  case link.link => simp [diskNode, hlinks p text text' i i' hx hy hsize hmtime]
  all_goals omega

/-- A file that is gone was deleted, or something above it was. -/
theorem exists_deleted (hx : before.get p ≠ none) (hy : after.get p = none) :
    ∃ d ∈ deletedFiles before after, d <+: p := by
  have hp : p ∈ (ClosedSnapshot.capture before).entries := by
    refine mem_capture.2 ⟨?_, hx⟩
    rintro rfl
    simp [FileTree.get] at hy
  exact @exists_deletion p (.capture before) (.capture after) hp fun h => (mem_capture.1 h).2 hy

section

variable (h : Captured linkName before after)
include h

theorem Captured.victim_eq (hd : d ∈ deletedFiles before after) : victim d = d := by
  obtain ⟨hne, hbefore, hafter, hparent⟩ := mem_deletedFiles.1 hd
  obtain ⟨q, n, rfl⟩ := (eq_nil_or_concat' d).resolve_left hne
  rw [dropLast_concat] at hparent
  rw [victim_concat, utf8Lossy_eq_self (h.names q n hbefore hafter hparent)]

theorem Captured.harmless : Harmless after (deletedFiles before after) := by
  intro d hd p hp hpre
  rw [h.victim_eq hd] at hpre
  exact hp (get_none_below hpre (mem_deletedFiles.1 hd).2.2.1)

theorem Captured.unpacked_eq (hsame : SameContent before after)
    (hy : after.get p = some y) : unpacked linkName before after (changedFiles before after) p = some (diskNode y) := by
  rw [unpacked]
  split_ifs with hp
  · rw [hy, map_some]
    rcases y with _ | _ | ⟨text, i⟩
    · rfl
    · rfl
    · rcases h.linkNames p text i hy with htext | ⟨_, hx, hmtime⟩
      · rw [diskNode, archived, htext]
      · exact absurd hp (link_unchanged hx hy rfl hmtime)
  · by_cases hroot : p = []
    · subst hroot
      simp only [FileTree.get, if_true, some.injEq] at hy ⊢
      rw [← hy, map_some, diskNode, diskNode, h.root]
    · obtain ⟨_, hx, hdiffers⟩ := unchanged hroot hy hp
      rw [hx, map_some, diskNode_eq_of_not_differs hsame h.links hx hy hdiffers]

theorem Captured.pruned_eq (hsame : SameContent before after) (p) :
    pruned linkName before after (deletedFiles before after) p = (after.get p).map diskNode := by
  rcases hy : after.get p with _ | _
  · by_cases hx : before.get p = none
    · by_cases hcovered : ∃ d ∈ deletedFiles before after, victim d <+: p
      · obtain ⟨d, hd, hpre⟩ := hcovered
        exact pruned_of_covered hd hpre
      · push Not at hcovered
        rw [pruned_of_not_covered hcovered, unpacked_eq_none.2 ⟨hx, hy⟩, map_none]
    · obtain ⟨d, hd, _⟩ := exists_deleted hx hy
      exact pruned_of_covered hd (by rwa [h.victim_eq hd])
  · rw [pruned_of_not_covered fun d hd => h.harmless d hd p (by simp [hy]), h.unpacked_eq hsame hy, map_some]

end

theorem captured_of_pruned (hkinds : SameKinds before after) (hharmless : Harmless after (deletedFiles before after))
    (heq : ∀ p, pruned linkName before after (deletedFiles before after) p = (after.get p).map diskNode) :
    Captured linkName before after := by
  have hunpacked : ∀ p y, after.get p = some y →
      unpacked linkName before after (changedFiles before after) p = some (diskNode y) := by
    intro p y hy
    rw [← pruned_of_not_covered fun d hd => hharmless d hd p (by simp [hy]), heq p, hy, map_some]
  constructor
  case kinds => exact hkinds
  case links =>
    intro p text text' i i' hx hy hlength hmtime
    have hnode := hunpacked p _ hy
    rw [unpacked, if_neg (link_unchanged hx hy hlength hmtime), hx] at hnode
    simpa [diskNode] using hnode
  case linkNames =>
    intro p text i hy
    have hnode := hunpacked p _ hy
    by_cases hp : p ∈ changedFiles before after
    · rw [unpacked, if_pos hp, hy] at hnode
      exact .inl (by simpa [diskNode, archived] using hnode)
    · have hroot : p ≠ [] := by
        rintro rfl
        simp [FileTree.get] at hy
      obtain ⟨_, hx, hdiffers⟩ := unchanged hroot hy hp
      obtain ⟨text', i', rfl, -, hmtime⟩ := mtime_link_of_not_differs hdiffers
      rw [unpacked, if_neg hp, hx] at hnode
      have htext : text' = text := by simpa [diskNode] using hnode
      exact .inr ⟨i', htext ▸ hx, hmtime⟩
  case names =>
    intro q n hbefore hafter hparent
    -- the file is gone, so that a whiteout has removed it: its own, or a harmful one
    have hnone := heq (q ++ [n])
    rw [hafter, map_none] at hnone
    by_contra hutf8
    have hnot : ∀ d ∈ deletedFiles before after, ¬ victim d <+: q ++ [n] := by
      intro d hd hpre
      obtain ⟨_, n', rfl⟩ := (eq_nil_or_concat' d).resolve_left (mem_deletedFiles.1 hd).1
      rw [prefix_concat_iff] at hpre
      rcases hpre with hself | habove
      · rw [victim_concat] at hself
        have hn : utf8Lossy n' = n := by simpa using (append_inj' hself rfl).2
        exact hutf8 (hn ▸ isUtf8_utf8Lossy n')
      · exact hharmless _ hd q hparent habove
    rw [pruned_of_not_covered hnot, unpacked_eq_none] at hnone
    exact hbefore hnone.1
  case root =>
    have hnode := hunpacked [] _ (by rw [FileTree.get, if_pos rfl])
    have hp : [] ∉ changedFiles before after := fun h => (mem_changedFiles.1 h).1 rfl
    rw [unpacked, if_neg hp] at hnode
    simpa [FileTree.get, diskNode] using hnode

/-- **The layer of a step restores it** exactly if the step is captured. -/
theorem runLayer_roundTrip_iff (htar : tar.Unpacks target) (hholds : Holds disk target before)
    (hmarkers : NoMarkers before after) (hsame : SameContent before after) :
    RoundTrip linkName tar target targetText disk before after ↔ Captured linkName before after := by
  constructor
  · intro h
    have hkinds := sameKinds_of_roundTrip htar hholds hmarkers h
    obtain ⟨hharmless, heq⟩ := (roundTrip_iff_pruned htar hholds hmarkers hkinds).1 h
    exact captured_of_pruned hkinds hharmless heq
  · intro h
    exact (roundTrip_iff_pruned htar hholds hmarkers h.kinds).2 ⟨h.harmless, h.pruned_eq hsame⟩

/-! ### Two steps -/

/-- A disk with a rootfs at the target and nothing else. -/
def placed (target : Location) (rootfs : Rootfs) : Disk := fun p =>
  if target.isPrefixOf p then (rootfs.get (p.drop target.length)).map diskNode else none

theorem holds_placed (target) (rootfs : Rootfs) : Holds (placed target rootfs) target rootfs := by
  intro p
  simp [placed]

theorem get_oneEntry {h} : (oneEntry name node h).get p = some x ↔
      p = [] ∧ .dir ⟨0o755, 0, 4096⟩ = x ∨ p = [utf8 name] ∧ node = x := by
  rcases p with _ | ⟨_, _ | ⟨_, _⟩⟩ <;> simp [FileTree.get, oneEntry, Listing.get]

theorem name_oneEntry {h} (hp : (oneEntry name node h).get (p ++ [n]) ≠ none) : n = utf8 name := by
  obtain ⟨_, hx⟩ := ne_none_iff_exists'.1 hp
  rcases get_oneEntry.1 hx with ⟨heq, -⟩ | ⟨heq, -⟩
  · simp at heq
  · simpa using congrArg getLast? heq

theorem noMarkers_oneEntry {h name' node' h'} (hold : utf8 name ≠ utf8 ".wh..opq")
    (hnew : ¬ whiteoutPrefix <+: utf8 name') : NoMarkers (oneEntry name node h) (oneEntry name' node' h') where
  changed p n hp := by
    obtain ⟨-, _, hy, -⟩ := mem_changedFiles.1 hp
    have hn : n = utf8 name' := name_oneEntry (show (oneEntry name' node' h').get (p ++ [n]) ≠ none by simp [hy])
    rwa [hn]
  deleted p hp := hold (name_oneEntry (mem_deletedFiles.1 hp).2.1).symm

/-- `runLayer_roundTrip_iff` at a step that writes one file and removes another. -/
theorem runLayer_roundTrip_file : RoundTrip id plainTar [utf8 "rootfs"] "rootfs"
      (placed [utf8 "rootfs"] (oneEntry "old" (.file ⟨[1], 0o644, 7⟩) (by decide +kernel)))
      (oneEntry "old" (.file ⟨[1], 0o644, 7⟩) (by decide +kernel))
      (oneEntry "new" (.file ⟨[2, 3], 0o600, 9⟩) (by decide +kernel)) := by
  have hne : utf8 "old" ≠ utf8 "new" := by decide +kernel
  refine (runLayer_roundTrip_iff (plainTar_unpacks _) (holds_placed _ _)
    (noMarkers_oneEntry (by decide +kernel) (by decide +kernel)) ?_).2 ?_
  · intro p f f' hf hf'
    rcases get_oneEntry.1 hf with ⟨rfl, -⟩ | ⟨rfl, -⟩ <;> simp [get_oneEntry, hne] at hf hf'
  constructor
  case kinds =>
    intro p x y hx hy
    rcases get_oneEntry.1 hx with ⟨rfl, rfl⟩ | ⟨rfl, rfl⟩ <;> simp [get_oneEntry, hne] at hy
    rw [← hy]
  case links =>
    intro p text text' i i' hx
    simp [get_oneEntry] at hx
  case linkNames => simp
  case names =>
    intro p n hp
    rw [name_oneEntry hp]
    exact fun _ _ => by decide +kernel
  case root => rfl

/-- A step that puts a file where a directory was. -/
theorem directory_to_file :
    let before := oneEntry "cache" (.dir ⟨0o755, 7, 4096⟩) validName_cache
    let after := oneEntry "cache" (.file ⟨[1], 0o644, 9⟩) validName_cache
    NoMarkers before after ∧ SameContent before after ∧
      (plainTar : Tar DiskNode FileState Perm Unit).Unpacks [utf8 "rootfs"] ∧
      ¬ RoundTrip id plainTar [utf8 "rootfs"] "rootfs" (placed [utf8 "rootfs"] before) before after := by
  intro before after
  have hmarkers : NoMarkers before after := noMarkers_oneEntry (by decide +kernel) (by decide +kernel)
  refine ⟨hmarkers, ?_, plainTar_unpacks _, fun h => ?_⟩
  · intro p f f' hf
    rcases get_oneEntry.1 hf with ⟨-, h⟩ | ⟨-, h⟩ <;> simp at h
  · have hkinds := sameKinds_of_roundTrip (plainTar_unpacks _) (holds_placed _ _) hmarkers h [utf8 "cache"] _ _
      (get_oneEntry.2 (.inr ⟨rfl, rfl⟩)) (get_oneEntry.2 (.inr ⟨rfl, rfl⟩))
    simp [Node.isDir] at hkinds

end A3sBox.Build
