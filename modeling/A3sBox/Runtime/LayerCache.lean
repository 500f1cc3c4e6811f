import A3sBox.Core.Error
import A3sBox.Library.Totals
import Mathlib.Data.Set.Insert

/-!
# The layer cache

`runtime/src/cache/layer_cache.rs`: extracted layers are kept in one directory, each under a name made from its
digest, with a metadata file beside it. A layer is found if both are there. To put one, what is there is removed, the
layer is copied and the metadata is written.

## The model

A digest is a plain file name once its colons are replaced. A metadata file holds the metadata, or a text that does
not parse. A `put` may fail at any point (`PutFault`). The size that is found for a layer is passed in, since it is
measured through links that lead out of it.

`get_last_put`: a layer that is found is a complete copy of the last that was put, in runs in which a `put` fails only
while its digest has no metadata file, and not in writing it. Otherwise: `partial_layer`.
-/

namespace A3sBox.LayerCache

open List Option AList

/-! ### Directories and interrupted copies -/

/-- The content of a directory, in the order in which it is read. -/
inductive Tree where
  | nil
  | file (name : String) (content : List UInt8) (rest : Tree)
  | link (name target : String) (rest : Tree)
  | sub (name : String) (children rest : Tree)
  deriving DecidableEq, Repr

/-- What is copied of the entries when `work` operations succeed (to create an entry and to write a byte are one each),
and how many are left; none if the copy was interrupted. -/
def Tree.copyEntries : Tree → ℕ → Tree × Option ℕ
  | .nil, work => (.nil, some work)
  | .file _ _ _, 0 | .link _ _ _, 0 | .sub _ _ _, 0 => (.nil, none)
  | .file name content rest, work + 1 =>
    if content.length ≤ work then
      let (rest, left) := rest.copyEntries (work - content.length)
      (.file name content rest, left)
    else (.file name (content.take work) .nil, none)
  | .link name target rest, work + 1 =>
    let (rest, left) := rest.copyEntries work
    (.link name target rest, left)
  | .sub name children rest, work + 1 =>
    match children.copyEntries work with
    | (children, none) => (.sub name children .nil, none)
    | (children, some work) =>
      let (rest, left) := rest.copyEntries work
      (.sub name children rest, left)

/-- `copy_dir_recursive`, stopped after a number of operations if one is given: the directory that is there afterwards,
if it was created, and whether the copy was stopped. -/
def copyDirRecursive (source : Tree) : Option ℕ → Option Tree × Bool
  | none => (some source, false)
  | some 0 => (none, true)
  | some (work + 1) => (some (source.copyEntries work).1, (source.copyEntries work).2.isNone)

/-! ### The cache -/

/-- What is stored about a layer. -/
structure LayerMeta where
  digest : String
  sizeBytes : UInt64
  cachedAt : Int64
  lastAccessed : Int64
  deriving DecidableEq, Repr

/-- What is in the cache directory. -/
inductive Node where
  | dir (tree : Tree)
  /-- A metadata file; none if its text does not parse. -/
  | file (content : Option LayerMeta)
  deriving DecidableEq, Repr

/-- The cache directory, by names. -/
abbrev Cache := AList fun _ : String => Node

/-- The name of the directory of a layer. -/
def digestToDirname (digest : String) : String :=
  String.ofList (digest.toList.map fun c => if c = ':' then '_' else c)

/-- The name of the metadata file of a layer. -/
def metaName (digest : String) : String := digestToDirname digest ++ ".meta.json"

/-- What a failed write leaves of a metadata file. -/
inductive MetaFault where
  | unchanged
  | broken
  deriving DecidableEq, Repr

/-- Write a metadata file. -/
def writeMeta (cache : Cache) (name : String) (content : LayerMeta) : Option MetaFault → Cache
  | none => cache.insert name (.file (some content))
  | some .unchanged => cache
  | some .broken => cache.insert name (.file none)

/-- Where a `put` fails. -/
inductive PutFault where
  /-- While the old directory is removed; what is left of it. -/
  | removing (left : Tree)
  /-- In the copy, after some operations. -/
  | copying (work : ℕ)
  | writing (fault : MetaFault)
  deriving DecidableEq, Repr

/-- Where the copy fails. -/
def PutFault.copyFault : Option PutFault → Option ℕ
  | some (.copying work) => some work
  | _ => none

/-- How the metadata fails. -/
def PutFault.metaFault : Option PutFault → Option MetaFault
  | some (.writing fault) => some fault
  | _ => none

variable (cacheDir : String)

/-- The directory of a layer, if it is in the cache. The time of its metadata is set; a failure is ignored. -/
def get (cache : Cache) (now : Int64) (digest : String) (fault : Option MetaFault) : Cache × Option String :=
  match cache.lookup (digestToDirname digest), cache.lookup (metaName digest) with
  | some (.dir _), some (.file content) =>
    let cache :=
      match content with
      | some found => writeMeta cache (metaName digest) { found with lastAccessed := now } fault
      | none => cache
    (cache, some (cacheDir ++ "/" ++ digestToDirname digest))
  | _, _ => (cache, none)

/-- Write the metadata of a layer that was copied. -/
def finishPut (cache : Cache) (now : Int64) (digest : String) (size : UInt64) (why : String)
    (fault : Option MetaFault) : Cache × Except BoxError String :=
  let path := cacheDir ++ "/" ++ digestToDirname digest
  let metaPath := cacheDir ++ "/" ++ metaName digest
  let failed := BoxError.cacheError s!"Failed to write layer metadata {metaPath}: {why}"
  match cache.lookup (metaName digest), fault with
  | some (.dir _), _ => (cache, .error failed)
  | _, some fault => (writeMeta cache (metaName digest) ⟨digest, size, now, now⟩ (some fault), .error failed)
  | _, none => (writeMeta cache (metaName digest) ⟨digest, size, now, now⟩ none, .ok path)

/-- Copy a directory into the cache; `why` is what the operating system says of a failure. -/
def put (cache : Cache) (now : Int64) (digest : String) (source : Tree) (size : UInt64)
    (why : String) (fault : Option PutFault) : Cache × Except BoxError String :=
  let name := digestToDirname digest
  let path := cacheDir ++ "/" ++ name
  let failed := BoxError.cacheError s!"Failed to remove existing cache entry {path}: {why}"
  match cache.lookup name, fault with
  | some (.file _), _ => (cache, .error failed)
  | some (.dir _), some (.removing left) => (cache.insert name (.dir left), .error failed)
  | _, _ =>
    match copyDirRecursive source (PutFault.copyFault fault) with
    | (none, _) => (cache.erase name, .error (.cacheError why))
    | (some copied, true) => (cache.insert name (.dir copied), .error (.cacheError why))
    | (some copied, false) =>
      finishPut cacheDir (cache.insert name (.dir copied)) now digest size why (PutFault.metaFault fault)

/-- Remove a layer. -/
def invalidate (cache : Cache) (digest : String) : Cache × Except BoxError Unit :=
  let path := cacheDir ++ "/" ++ digestToDirname digest
  let metaPath := cacheDir ++ "/" ++ metaName digest
  match cache.lookup (digestToDirname digest) with
  | some (.file _) => (cache, .error (.cacheError s!"Failed to remove cached layer {path}: Not a directory (os error 20)"))
  | _ =>
    let cache := cache.erase (digestToDirname digest)
    match cache.lookup (metaName digest) with
    | some (.dir _) =>
      (cache, .error (.cacheError s!"Failed to remove layer metadata {metaPath}: Is a directory (os error 21)"))
    | _ => (cache.erase (metaName digest), .ok ())

/-- All metadata that parses. -/
def listEntries (cache : Cache) : List LayerMeta :=
  cache.entries.filterMap fun entry =>
    if ".meta.json".toList.isSuffixOf entry.1.toList then
      match entry.2 with
      | .file content => content
      | .dir _ => none
    else none

/-- The sum of numbers of type `u64`. -/
def sumU64 (profile : Profile) : List UInt64 → Except (Fault BoxError) UInt64
  | [] => .ok 0
  | a :: rest => do
    let sum ← sumU64 profile rest
    if profile = .debug ∧ 2 ^ 64 ≤ a.toNat + sum.toNat then .error .panic else .ok (a + sum)

/-- Remove layers until they fit. -/
def evict (cacheDir : String) (maxBytes : UInt64) :
    List LayerMeta → Cache → UInt64 → ℕ → Cache × Except (Fault BoxError) ℕ
  | [], cache, _, evicted => (cache, .ok evicted)
  | entry :: entries, cache, currentSize, evicted =>
    if currentSize ≤ maxBytes then (cache, .ok evicted)
    else
      match invalidate cacheDir cache entry.digest with
      | (cache, .error e) => (cache, .error (.error e))
      | (cache, .ok ()) =>
        evict cacheDir maxBytes entries cache (if entry.sizeBytes ≤ currentSize then currentSize - entry.sizeBytes else 0)
          (evicted + 1)

/-- Remove the layers found longest ago until the others fit. -/
def prune (profile : Profile) (cacheDir : String) (cache : Cache) (maxBytes : UInt64) :
    Cache × Except (Fault BoxError) ℕ :=
  let entries := listEntries cache
  match sumU64 profile (entries.map fun entry => entry.sizeBytes) with
  | .error fault => (cache, .error fault)
  | .ok totalSize =>
    if totalSize ≤ maxBytes then (cache, .ok 0)
    else evict cacheDir maxBytes (entries.mergeSort fun a b => a.lastAccessed ≤ b.lastAccessed) cache totalSize 0

/-! ### Runs -/

/-- The calls. -/
inductive Call where
  | put (digest : String) (source : Tree) (size : UInt64) (why : String) (fault : Option PutFault)
  | get (digest : String) (fault : Option MetaFault)
  | invalidate (digest : String)
  | prune (maxBytes : UInt64)
  deriving DecidableEq, Repr

/-- A cache, and the directory that was given to the last successful `put` of each digest. -/
structure State where
  cache : Cache
  given : String → Option Tree

/-- The effect of a call. -/
def State.call (profile : Profile) (cacheDir : String) (s : State) (now : Int64) : Call → State
  | .put digest source size why fault =>
    match put cacheDir s.cache now digest source size why fault with
    | (cache, .error _) => ⟨cache, s.given⟩
    | (cache, .ok _) => ⟨cache, Function.update s.given digest (some source)⟩
  | .get digest fault => ⟨(get cacheDir s.cache now digest fault).1, s.given⟩
  | .invalidate digest => ⟨(invalidate cacheDir s.cache digest).1, s.given⟩
  | .prune maxBytes => ⟨(prune profile cacheDir s.cache maxBytes).1, s.given⟩

/-- A digest has a metadata file. -/
def HasMeta (cache : Cache) (digest : String) : Prop := ∃ content, cache.lookup (metaName digest) = some (.file content)

/-- Digests that do not get in each other's way in the cache directory. -/
def Separate (digests : Set String) : Prop :=
  ∀ d ∈ digests, ∀ e ∈ digests, (digestToDirname d = digestToDirname e → d = e) ∧ digestToDirname d ≠ metaName e

/-- The condition on a call: a `put` is of one of the digests, and fails only while that has no metadata, and leaves
none. -/
def Careful (digests : Set String) (s : State) : Call → Prop
  | .put digest _ _ _ fault =>
    digest ∈ digests ∧ (fault = none ∨ ¬ HasMeta s.cache digest ∧ fault ≠ some (.writing .broken))
  | .get _ _ | .invalidate _ | .prune _ => True

/-- The runs in which every call meets a condition. -/
inductive Run (profile : Profile) (cacheDir : String) (ok : State → Call → Prop) : State → Prop where
  | start : Run profile cacheDir ok ⟨∅, fun _ => none⟩
  | call {s} (now : Int64) (call : Call) (before : Run profile cacheDir ok s) (meets : ok s call) :
      Run profile cacheDir ok (s.call profile cacheDir now call)

/-- A layer that is found is a copy of what was put last. -/
def Sound (s : State) (digest : String) : Prop :=
  ∀ cacheDir now fault path, (get cacheDir s.cache now digest fault).2 = some path →
    ∃ source, s.given digest = some source ∧ path = cacheDir ++ "/" ++ digestToDirname digest ∧
      s.cache.lookup (digestToDirname digest) = some (.dir source)

/-! ### What the calls do -/

variable {source : Tree} {cache cache' : Cache} {key cacheDir digest why : String} {now : Int64} {size : UInt64}
  {fault : Option PutFault} {e : BoxError} {s : State} {node : Node} {profile : Profile} {digests : Set String}

theorem copyEntries_complete {work left} (h : (source.copyEntries work).2 = some left) :
    (source.copyEntries work).1 = source := by
  induction source generalizing work left with
  | nil => rfl
  | file _ content _ ih =>
    cases work with
    | zero => simp [Tree.copyEntries] at h
    | succ work =>
      by_cases hl : content.length ≤ work
      · simp only [Tree.copyEntries, hl, if_true] at h ⊢
        rw [ih h]
      · simp [Tree.copyEntries, hl] at h
  | link _ _ _ ih =>
    cases work with
    | zero => simp [Tree.copyEntries] at h
    | succ =>
      simp only [Tree.copyEntries] at h ⊢
      rw [ih h]
  | sub _ children _ ihc ihr =>
    cases work with
    | zero => simp [Tree.copyEntries] at h
    | succ work =>
      rcases hc : children.copyEntries work with ⟨copied, _ | _⟩
      · simp [Tree.copyEntries, hc] at h
      · have hcopied : copied = children := by
          have hchildren := ihc (congrArg Prod.snd hc)
          rwa [hc] at hchildren
        simp only [Tree.copyEntries, hc] at h ⊢
        rw [hcopied, ihr h]

theorem copyDirRecursive_complete {copied fault}
    (h : copyDirRecursive source fault = (some copied, false)) : copied = source := by
  rcases fault with _ | _ | _
  · simpa [copyDirRecursive] using h.symm
  · simp [copyDirRecursive] at h
  · simp only [copyDirRecursive, Prod.mk.injEq, some.injEq, isNone_eq_false_iff] at h
    obtain ⟨_, hleft⟩ := isSome_iff_exists.1 h.2
    rw [← h.1, copyEntries_complete hleft]

theorem dirname_ne_metaName (digest) : digestToDirname digest ≠ metaName digest := by
  intro h
  have hlength := congrArg String.length h
  simp [metaName] at hlength

variable {name other : String} {maxBytes : UInt64}

theorem lookup_writeMeta_ne {content fault} (h : key ≠ name) :
    (writeMeta cache name content fault).lookup key = cache.lookup key := by
  rcases fault with _ | (_ | _)
  · exact lookup_insert_ne h
  · rfl
  · exact lookup_insert_ne h

/-- To write the metadata changes the metadata file only. -/
theorem finishPut_lookup_ne {fault} (h : key ≠ metaName digest) :
    (finishPut cacheDir cache now digest size why fault).1.lookup key = cache.lookup key := by
  unfold finishPut
  split
  · rfl
  · exact lookup_writeMeta_ne h
  · exact lookup_writeMeta_ne h

/-- A `put` fails and leaves the metadata as it was, whatever has become of the directory; or it has copied the whole
directory and goes on to write the metadata. -/
theorem put_cases (cacheDir) (cache) (now) (digest) (source) (size)
    (why) (fault) :
    (∃ cache' e, put cacheDir cache now digest source size why fault = (cache', .error e) ∧
        ∀ key, key ≠ digestToDirname digest → cache'.lookup key = cache.lookup key) ∨
      put cacheDir cache now digest source size why fault =
        finishPut cacheDir (cache.insert (digestToDirname digest) (.dir source)) now digest size why
          (PutFault.metaFault fault) := by
  unfold put
  dsimp only
  split
  · exact .inl ⟨_, _, rfl, fun _ _ => rfl⟩
  · exact .inl ⟨_, _, rfl, fun _ hkey => lookup_insert_ne hkey⟩
  · split
    · exact .inl ⟨_, _, rfl, fun _ hkey => lookup_erase_ne hkey⟩
    · exact .inl ⟨_, _, rfl, fun _ hkey => lookup_insert_ne hkey⟩
    · next copied hcopy =>
      rw [copyDirRecursive_complete hcopy]
      exact .inr rfl

/-- A `put` that succeeds has copied the whole directory. -/
theorem put_ok {path} (h : put cacheDir cache now digest source size why fault = (cache', .ok path)) :
    cache'.lookup (digestToDirname digest) = some (.dir source) := by
  rcases put_cases cacheDir cache now digest source size why fault with ⟨_, _, herror, _⟩ | hfinish
  · rw [h] at herror
    cases herror
  · have hcache := (congrArg Prod.fst hfinish).symm.trans (congrArg Prod.fst h)
    dsimp only at hcache
    rw [← hcache, finishPut_lookup_ne (dirname_ne_metaName digest), lookup_insert]

/-- A `put` leaves everything else alone. -/
theorem put_lookup_ne (hname : key ≠ digestToDirname digest) (hmeta : key ≠ metaName digest) :
    (put cacheDir cache now digest source size why fault).1.lookup key = cache.lookup key := by
  rcases put_cases cacheDir cache now digest source size why fault with ⟨_, _, herror, hsame⟩ | hfinish
  · rw [herror]
    exact hsame key hname
  · rw [hfinish, finishPut_lookup_ne hmeta, lookup_insert_ne hname]

/-- A failed write of the metadata leaves no metadata file where there was none, unless a broken one. -/
theorem finishPut_error {fault} (hfault : fault ≠ some .broken)
    (h : finishPut cacheDir cache now digest size why fault = (cache', .error e)) : cache' = cache := by
  unfold finishPut at h
  split at h
  · exact (congrArg Prod.fst h).symm
  · next fault' _ =>
    cases fault' with
    | unchanged => exact (congrArg Prod.fst h).symm
    | broken => exact absurd rfl hfault
  · cases h

/-- A `put` that fails does not make a metadata file, unless a broken one. -/
theorem put_error (hfault : fault ≠ some (.writing .broken))
    (h : put cacheDir cache now digest source size why fault = (cache', .error e)) :
    cache'.lookup (metaName digest) = cache.lookup (metaName digest) := by
  rcases put_cases cacheDir cache now digest source size why fault with ⟨_, _, herror, hsame⟩ | hfinish
  · rw [herror] at h
    obtain rfl := congrArg Prod.fst h
    exact hsame _ (dirname_ne_metaName digest).symm
  · have hmetaFault : PutFault.metaFault fault ≠ some .broken := by
      intro hbroken
      rcases fault with _ | (_ | _ | fault)
      · cases hbroken
      · cases hbroken
      · cases hbroken
      · obtain rfl : fault = .broken := some.inj hbroken
        exact hfault rfl
    rw [finishPut_error hmetaFault (hfinish.symm.trans h), lookup_insert_ne (dirname_ne_metaName digest).symm]

/-! ### What is kept -/

/-- What the cache has of a digest. If there is metadata, the directory is the one that was put. -/
def Whole (s : State) (digest : String) : Prop :=
  HasMeta s.cache digest → ∀ tree, s.cache.lookup (digestToDirname digest) = some (.dir tree) →
    s.given digest = some tree

/-- Where what was there is still there or has gone, what is there is still what was put. -/
theorem whole_of_lookup {s'} (h : Whole s digest) (hgiven : s'.given = s.given)
    (hmeta : HasMeta s'.cache digest → HasMeta s.cache digest)
    (hdir : ∀ tree, s'.cache.lookup (digestToDirname digest) = some (.dir tree) →
      s.cache.lookup (digestToDirname digest) = some (.dir tree)) : Whole s' digest := by
  intro hhas tree htree
  rw [hgiven]
  exact h (hmeta hhas) tree (hdir tree htree)

/-- To remove a layer adds nothing. -/
theorem lookup_of_invalidate (h : (invalidate cacheDir cache digest).1.lookup key = some node) :
    cache.lookup key = some node := by
  unfold invalidate at h
  dsimp only at h
  split at h
  · exact h
  · split at h
    · exact Totals.lookup_of_erase h
    · exact Totals.lookup_of_erase (Totals.lookup_of_erase h)

theorem lookup_of_evict {entries currentSize evicted}
    (h : (evict cacheDir maxBytes entries cache currentSize evicted).1.lookup key = some node) :
    cache.lookup key = some node := by
  induction entries generalizing cache currentSize evicted with
  | nil => exact h
  | cons entry _ ih =>
    by_cases hfits : currentSize ≤ maxBytes
    · simpa only [evict, hfits, if_true] using h
    · simp only [evict, hfits] at h
      rcases hinvalidate : invalidate cacheDir cache entry.digest with ⟨_, _ | _⟩
      · rw [hinvalidate] at h
        exact lookup_of_invalidate ((congrArg (fun r => r.1.lookup key) hinvalidate).trans h)
      · rw [hinvalidate] at h
        exact lookup_of_invalidate ((congrArg (fun r => r.1.lookup key) hinvalidate).trans (ih h))

theorem lookup_of_prune (h : (prune profile cacheDir cache maxBytes).1.lookup key = some node) :
    cache.lookup key = some node := by
  unfold prune at h
  dsimp only at h
  split at h
  · exact h
  · split_ifs at h
    · exact h
    · exact lookup_of_evict h

/-- To find a layer changes metadata files only, and makes none. -/
theorem get_lookup {fault} (h : (get cacheDir cache now digest fault).1.lookup key = some node) :
    cache.lookup key = some node ∨
      ∃ content content', cache.lookup key = some (.file content) ∧ node = .file content' := by
  unfold get at h
  split at h
  · next tree content _ hmeta =>
    cases content with
    | none => exact .inl h
    | some =>
      by_cases hkey : key = metaName digest
      · subst hkey
        rcases fault with _ | (_ | _)
        · exact .inr ⟨_, _, hmeta, (some.inj ((lookup_insert _).symm.trans h)).symm⟩
        · exact .inl h
        · exact .inr ⟨_, _, hmeta, (some.inj ((lookup_insert _).symm.trans h)).symm⟩
      · exact .inl ((lookup_writeMeta_ne hkey).symm.trans h)
  · exact .inl h

theorem whole_get (h : Whole s digest) (cacheDir) (now) (found : String) (fault : Option MetaFault) :
    Whole ⟨(get cacheDir s.cache now found fault).1, s.given⟩ digest := by
  refine whole_of_lookup h rfl ?_ ?_
  · rintro ⟨content, hcontent⟩
    rcases get_lookup hcontent with hsame | ⟨content', _, hfile, _⟩
    · exact ⟨content, hsame⟩
    · exact ⟨content', hfile⟩
  · intro tree htree
    rcases get_lookup htree with hsame | ⟨_, _, _, hfile⟩
    · exact hsame
    · cases hfile

theorem whole_of_removed (h : Whole s digest)
    (hcache : ∀ key node, cache.lookup key = some node → s.cache.lookup key = some node) :
    Whole ⟨cache, s.given⟩ digest :=
  whole_of_lookup h rfl (fun ⟨content, hcontent⟩ => ⟨content, hcache _ _ hcontent⟩) fun _ htree => hcache _ _ htree

theorem cache_call_put (profile : Profile) (cacheDir : String) (s : State) (now : Int64) (digest : String)
    (source : Tree)
    (size : UInt64) (why : String) (fault : Option PutFault) :
    (s.call profile cacheDir now (.put digest source size why fault)).cache =
      (put cacheDir s.cache now digest source size why fault).1 := by
  simp only [State.call]
  rcases put cacheDir s.cache now digest source size why fault with ⟨_, _ | _⟩
  · rfl
  · rfl

theorem given_call_put_ne (hne : digest ≠ other) :
    (s.call profile cacheDir now (.put other source size why fault)).given digest = s.given digest := by
  simp only [State.call]
  rcases put cacheDir s.cache now other source size why fault with ⟨_, _ | _⟩
  · rfl
  · exact Function.update_of_ne hne _ _

theorem whole_put_other (hseparate : Separate digests) (hdigest : digest ∈ digests) (hother : other ∈ digests)
    (hne : digest ≠ other) (h : Whole s digest) :
    Whole (s.call profile cacheDir now (.put other source size why fault)) digest := by
  have hname : digestToDirname digest ≠ digestToDirname other :=
    fun hsame => hne ((hseparate _ hdigest _ hother).1 hsame)
  have hmeta : metaName digest ≠ metaName other := fun hsame => hname (String.append_left_inj _ |>.1 hsame)
  rintro ⟨content, hcontent⟩ tree htree
  rw [cache_call_put, put_lookup_ne hname (hseparate _ hdigest _ hother).2] at htree
  rw [cache_call_put, put_lookup_ne (hseparate _ hother _ hdigest).2.symm hmeta] at hcontent
  rw [given_call_put_ne hne]
  exact h ⟨content, hcontent⟩ tree htree

/-- A `put` that nothing interrupts fails only if no layer is in its way: it changes nothing, or there is no metadata.
-/
theorem put_error_of_no_fault (h : put cacheDir cache now digest source size why none = (cache', .error e)) :
    cache' = cache ∨ ¬ HasMeta cache' digest := by
  unfold put at h
  dsimp only at h
  split at h
  · exact .inl (congrArg Prod.fst h).symm
  · next hfault => cases hfault
  · right
    simp only [copyDirRecursive, PutFault.copyFault, PutFault.metaFault] at h
    have hcache := finishPut_error (by simp) h
    rintro ⟨_, hcontent⟩
    rw [hcache] at hcontent
    simp [finishPut, hcontent] at h

/-- **A careful `put` keeps it.** -/
theorem whole_put (h : Whole s digest)
    (hcareful : fault = none ∨ ¬ HasMeta s.cache digest ∧ fault ≠ some (.writing .broken)) :
    Whole (s.call profile cacheDir now (.put digest source size why fault)) digest := by
  simp only [State.call]
  rcases hput : put cacheDir s.cache now digest source size why fault with ⟨_, _ | _⟩
  · rcases hcareful with rfl | ⟨hmeta, hfault⟩
    · rcases put_error_of_no_fault hput with rfl | hnone
      · exact h
      · exact fun hhas => absurd hhas hnone
    · rintro ⟨content, hcontent⟩
      exact absurd ⟨content, (put_error hfault hput).symm.trans hcontent⟩ hmeta
  · intro _ tree htree
    have hsource : some (Node.dir tree) = some (Node.dir source) := htree.symm.trans (put_ok hput)
    obtain rfl : tree = source := by simpa using hsource
    exact Function.update_self _ _ _

theorem whole_call (hseparate : Separate digests) (h : ∀ digest ∈ digests, Whole s digest) {call}
    (hcareful : Careful digests s call) : ∀ digest ∈ digests, Whole (s.call profile cacheDir now call) digest := by
  intro digest hdigest
  cases call with
  | put other =>
    by_cases hne : digest = other
    · subst hne
      exact whole_put (h digest hdigest) hcareful.2
    · exact whole_put_other hseparate hdigest hcareful.1 hne (h digest hdigest)
  | get found fault => exact whole_get (h digest hdigest) cacheDir now found fault
  | invalidate => exact whole_of_removed (h digest hdigest) fun _ _ => lookup_of_invalidate
  | prune => exact whole_of_removed (h digest hdigest) fun _ _ => lookup_of_prune

theorem run_whole (hseparate : Separate digests) (h : Run profile cacheDir (Careful digests) s) :
    ∀ digest ∈ digests, Whole s digest := by
  induction h with
  | start =>
    rintro digest _ ⟨content, hcontent⟩
    cases hcontent
  | call _ _ _ meets ih => exact whole_call hseparate ih meets

/-- **A layer that is found is whole**: a complete copy of what the last successful `put` of its digest was given, if a
`put` fails only while there is no metadata for its digest, and leaves none that is broken. The digests have to have
different names in the cache. -/
theorem get_last_put {profile : Profile} {cacheDir : String} {digests : Set String} (hseparate : Separate digests)
    {s : State} (h : Run profile cacheDir (Careful digests) s) {digest : String} (hdigest : digest ∈ digests) :
    Sound s digest := by
  intro dir now fault path hget
  have hwhole := run_whole hseparate h digest hdigest
  unfold get at hget
  split at hget
  · next tree content hdir hmeta => exact ⟨tree, hwhole ⟨content, hmeta⟩ tree hdir, (some.inj hget).symm, hdir⟩
  · cases hget

/-- The digests that are written as `sha256:` and hexadecimal digits. -/
def sha256Digests : Set String :=
  { digest | ∃ hex : List Char, (∀ c ∈ hex, c ∈ "0123456789abcdef".toList) ∧
    digest = String.ofList ("sha256:".toList ++ hex) }

theorem digestToDirname_sha256 {hex} (h : ∀ c ∈ hex, c ∈ "0123456789abcdef".toList) :
    digestToDirname (String.ofList ("sha256:".toList ++ hex)) = String.ofList ("sha256_".toList ++ hex) := by
  have hhex : (hex.map fun c => if c = ':' then '_' else c) = hex := by
    conv_rhs => rw [← map_id hex]
    refine map_congr_left fun c hc => ?_
    have hcolon : c ≠ ':' := by
      rintro rfl
      exact absurd (h _ hc) (by decide)
    rw [if_neg hcolon, id]
  rw [digestToDirname, String.toList_ofList, map_append, hhex]
  rfl

/-- Such digests do not get in each other's way. -/
theorem separate_sha256 : Separate sha256Digests := by
  rintro _ ⟨hex, hhex, rfl⟩ _ ⟨hex', hhex', rfl⟩
  rw [metaName, digestToDirname_sha256 hhex, digestToDirname_sha256 hhex']
  constructor
  · intro h
    have hlist := String.ofList_injective h
    rw [append_cancel_left hlist]
  · intro h
    -- the name of a metadata file has a dot
    have hdot : '.' ∈ "sha256_".toList ++ hex := by
      have hlist := congrArg String.toList h
      rw [String.toList_ofList, String.toList_append] at hlist
      rw [hlist]
      exact mem_append_right _ (by decide)
    rcases mem_append.1 hdot with hprefix | hin
    · exact absurd hprefix (by decide)
    · exact absurd (hhex _ hin) (by decide)

/-- A layer. -/
def oneFile : Tree := .file "hello" [104, 105] .nil

/-- Put that layer. -/
def putOne (fault : Option PutFault) : Call := .put "sha256:aa" oneFile 2 "No space left on device (os error 28)" fault

/-- Nothing is cached. -/
def emptyCache : State := ⟨∅, fun _ => none⟩

/-- The layer is put, removed, put again without success, and put once more. -/
theorem get_after_retry :
    let s₁ := emptyCache.call .release "/cache" 1 (putOne none)
    let s₂ := s₁.call .release "/cache" 2 (.invalidate "sha256:aa")
    let s₃ := s₂.call .release "/cache" 3 (putOne (some (.copying 2)))
    let s₄ := s₃.call .release "/cache" 4 (putOne none)
    (get "/cache" s₄.cache 5 "sha256:aa" none).2 = some "/cache/sha256_aa" ∧ Sound s₄ "sha256:aa" := by
  intro s₁ s₂ s₃ s₄
  have hmem : "sha256:aa" ∈ sha256Digests := ⟨['a', 'a'], by simp, rfl⟩
  have hnone : ¬ HasMeta s₂.cache "sha256:aa" := by
    rintro ⟨_, hcontent⟩
    cases hcontent
  have hrun : Run .release "/cache" (Careful sha256Digests) s₄ :=
    .call 4 _ (.call 3 _ (.call 2 _ (.call 1 _ .start ⟨hmem, .inl rfl⟩) trivial) ⟨hmem, .inr ⟨hnone, by decide⟩⟩)
      ⟨hmem, .inl rfl⟩
  exact ⟨rfl, get_last_put separate_sha256 hrun hmem⟩

theorem partial_layer :
    let s₁ := emptyCache.call .release "/cache" 1 (putOne none)
    let s₂ := s₁.call .release "/cache" 2 (putOne (some (.copying 2)))
    Run .release "/cache" (fun _ _ => True) s₂ ∧ ¬ Sound s₂ "sha256:aa" := by
  refine ⟨.call 2 _ (.call 1 _ .start trivial) trivial, fun hsound => ?_⟩
  obtain ⟨source, hgiven, _, hdir⟩ := hsound "/cache" 3 none "/cache/sha256_aa" rfl
  obtain rfl : oneFile = source := some.inj hgiven
  exact absurd hdir (by decide)

end A3sBox.LayerCache
