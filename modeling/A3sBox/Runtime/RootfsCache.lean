import A3sBox.Runtime.LayerCache
import A3sBox.Library.Text

/-!
# The cache of root file systems

`runtime/src/cache/rootfs_cache.rs`: root file systems are kept in one directory, each under a key, with a metadata
file beside it. To put one, what is there is removed, the root file system is copied and the metadata is written. When
there are too many or they are too large, those found longest ago are removed.

## The model

A cached directory is a value of any type `R`, and `copy` is what a copy makes of it. The keys are hashes, so
directories and metadata files never have the same name: they are two maps. Metadata, sizes and failures are as in
`LayerCache`.

`found_put` and `found_prune`: what is found after a `put` or a prune.
-/

namespace A3sBox.RootfsCache

open LayerCache (MetaFault sumU64)
open Text Option Function

variable {R : Type}

/-! ### Keys -/

/-- The key of a root file system: the hash of what it is made from. -/
def computeKey (sha : List UInt8 → String) (imageRef : String) (layerDigests entrypoint : List String)
    (env : List (String × String)) : String :=
  let sortedEnv := env.mergeSort fun a b =>
    decide (utf8 a.1 < utf8 b.1) || decide (a.1 = b.1) && decide (utf8 a.2 ≤ utf8 b.2)
  sha (utf8 "rootfs-cache-v1\n" ++ utf8 imageRef ++ utf8 "\n" ++
    (layerDigests.flatMap fun digest => utf8 digest ++ utf8 "\n") ++
    (entrypoint.flatMap fun part => utf8 part ++ utf8 "\n") ++
    sortedEnv.flatMap fun (k, v) => utf8 k ++ utf8 "=" ++ utf8 v ++ utf8 "\n")

/-! ### The cache -/

/-- What is stored about a root file system. -/
structure RootfsMeta where
  key : String
  description : String
  sizeBytes : UInt64
  cachedAt : Int64
  lastAccessed : Int64
  deriving DecidableEq, Repr

/-- The cache directory. -/
structure Cache (R : Type) where
  /-- The root file systems, by keys. -/
  dirs : String → Option R
  /-- The metadata files, by keys; none if the text of one does not parse. -/
  infos : AList fun _ : String => Option RootfsMeta

/-- Nothing is cached. -/
def Cache.empty : Cache R := ⟨fun _ => none, ∅⟩

variable (cache : Cache R)

/-- Write a metadata file. -/
def Cache.writeMeta (key : String) (info : RootfsMeta) : Option MetaFault → Cache R
  | none => { cache with infos := cache.infos.insert key (some info) }
  | some .unchanged => cache
  | some .broken => { cache with infos := cache.infos.insert key none }

/-- The root file system that is found under a key. -/
def Cache.found (key : String) : Option R :=
  if (cache.infos.lookup key).isSome then cache.dirs key else none

/-- Find a root file system. The time of its metadata is set to now; if that fails, nobody is told. -/
def get (now : Int64) (key : String) (fault : Option MetaFault) : Cache R × Option R :=
  match cache.dirs key, cache.infos.lookup key with
  | some dir, some (some info) => (cache.writeMeta key { info with lastAccessed := now } fault, some dir)
  | some dir, some none => (cache, some dir)
  | _, _ => (cache, none)

/-- Where a `put` fails. -/
inductive PutFault (R : Type) where
  /-- While the old directory is removed; what is left of it. -/
  | removing (left : R)
  | copying (copied : Option R)
  | writing (fault : MetaFault)

/-- Copy a root file system into the cache; `copy` is what a copy is like, and `why` the reason of a failure. -/
def put (copy : R → R) (cacheDir : String) (cache : Cache R) (now : Int64) (key : String) (source : R)
    (description : String) (size : UInt64) (why : String) (fault : Option (PutFault R)) :
    Cache R × Except BoxError String :=
  let rootfsDir := cacheDir ++ "/" ++ key
  let metaPath := cacheDir ++ "/" ++ key ++ ".meta.json"
  let copied : Cache R := { cache with dirs := update cache.dirs key (some (copy source)) }
  let info : RootfsMeta := ⟨key, description, size, now, now⟩
  match cache.dirs key, fault with
  | some _, some (.removing left) =>
    ({ cache with dirs := update cache.dirs key (some left) },
      .error (.cacheError s!"Failed to remove existing rootfs cache entry {rootfsDir}: {why}"))
  | _, some (.copying part) =>
    ({ cache with dirs := update cache.dirs key part }, .error (.cacheError why))
  | _, some (.writing fault) =>
    (copied.writeMeta key info (some fault), .error (.cacheError s!"Failed to write rootfs metadata {metaPath}: {why}"))
  | _, _ => (copied.writeMeta key info none, .ok rootfsDir)

/-- Where a removal fails. -/
inductive RemoveFault (R : Type) where
  | dir (left : R)
  | info

/-- Remove a root file system. -/
def invalidate (cacheDir : String) (cache : Cache R) (key why : String) (fault : Option (RemoveFault R)) :
    Cache R × Except BoxError Unit :=
  let rootfsDir := cacheDir ++ "/" ++ key
  let metaPath := cacheDir ++ "/" ++ key ++ ".meta.json"
  let removed : Cache R := { cache with dirs := update cache.dirs key none }
  match cache.dirs key, cache.infos.lookup key, fault with
  | some _, _, some (.dir left) =>
    ({ cache with dirs := update cache.dirs key (some left) },
      .error (.cacheError s!"Failed to remove cached rootfs {rootfsDir}: {why}"))
  | _, some _, some .info => (removed, .error (.cacheError s!"Failed to remove rootfs metadata {metaPath}: {why}"))
  | _, _, _ => ({ removed with infos := cache.infos.erase key }, .ok ())

/-- The metadata of all root file systems. -/
def listEntries : List RootfsMeta := cache.infos.entries.filterMap fun entry => entry.2

/-- How the removals of a prune go. -/
structure Removals (R : Type) where
  fault : String → Option (RemoveFault R)
  why : String

/-- Remove root file systems until the others fit. -/
def evict (cacheDir : String) (maxEntries : ℕ) (maxBytes : UInt64) (removals : Removals R) :
    List RootfsMeta → Cache R → ℕ → UInt64 → ℕ → Cache R × Except (Fault BoxError) ℕ
  | [], cache, _, _, evicted => (cache, .ok evicted)
  | entry :: entries, cache, currentCount, currentSize, evicted =>
    if currentCount ≤ maxEntries ∧ currentSize ≤ maxBytes then (cache, .ok evicted)
    else
      match invalidate cacheDir cache entry.key removals.why (removals.fault entry.key) with
      | (cache, .error e) => (cache, .error (.error e))
      | (cache, .ok ()) =>
        evict cacheDir maxEntries maxBytes removals entries cache (currentCount - 1)
          (if entry.sizeBytes ≤ currentSize then currentSize - entry.sizeBytes else 0) (evicted + 1)

/-- Remove the root file systems found longest ago until the others fit. -/
def prune (profile : Profile) (cacheDir : String) (cache : Cache R) (maxEntries : ℕ) (maxBytes : UInt64)
    (removals : Removals R) : Cache R × Except (Fault BoxError) ℕ :=
  let entries := listEntries cache
  match sumU64 profile (entries.map fun entry => entry.sizeBytes) with
  | .error fault => (cache, .error fault)
  | .ok totalSize =>
    if entries.length ≤ maxEntries ∧ totalSize ≤ maxBytes then (cache, .ok 0)
    else
      evict cacheDir maxEntries maxBytes removals (entries.mergeSort fun a b => a.lastAccessed ≤ b.lastAccessed) cache
        entries.length totalSize 0

/-! ### What is found -/

variable {key k cacheDir : String} {cache : Cache R} {r : R}

theorem found_eq_some : cache.found key = some r ↔ cache.infos.lookup key ≠ none ∧ cache.dirs key = some r := by
  simp only [Cache.found, ite_none_right_eq_some, isSome_iff_ne_none]

@[simp] theorem dirs_writeMeta (cache : Cache R) (key : String) (info : RootfsMeta) (fault : Option MetaFault) :
    (cache.writeMeta key info fault).dirs = cache.dirs := by
  rcases fault with _ | _ | _ <;> rfl

/-- Writing a metadata file leaves the others as they are. -/
theorem infos_writeMeta_of_ne (h : k ≠ key) (info : RootfsMeta) (fault : Option MetaFault) :
    (cache.writeMeta key info fault).infos.lookup k = cache.infos.lookup k := by
  rcases fault with _ | _ | _
  · exact AList.lookup_insert_ne h
  · rfl
  · exact AList.lookup_insert_ne h

theorem infos_writeMeta_ne_none (h : cache.infos.lookup key ≠ none) (info : RootfsMeta) (fault : Option MetaFault) :
    (cache.writeMeta key info fault).infos.lookup k ≠ none ↔ cache.infos.lookup k ≠ none := by
  by_cases hk : k = key
  · subst hk
    refine iff_of_true ?_ h
    rcases fault with _ | _ | _
    · simp only [Cache.writeMeta, AList.lookup_insert]; exact some_ne_none _
    · exact h
    · simp only [Cache.writeMeta, AList.lookup_insert]; exact some_ne_none _
  · rw [infos_writeMeta_of_ne hk]

theorem get_snd (cache : Cache R) (now : Int64) (key : String) (fault : Option MetaFault) :
    (get cache now key fault).2 = cache.found key := by
  unfold get Cache.found
  rcases cache.dirs key with _ | _ <;> rcases cache.infos.lookup key with _ | _ | _ <;> rfl

theorem found_get (cache : Cache R) (now : Int64) (key : String) (fault : Option MetaFault) (k : String) :
    (get cache now key fault).1.found k = cache.found k := by
  unfold get
  split
  next info _ hinfo =>
    ext r
    rw [found_eq_some, found_eq_some, dirs_writeMeta, infos_writeMeta_ne_none (by rw [hinfo]; exact some_ne_none _)]
  next => rfl
  next => rfl

/-- The condition on a `put`: the directory is removed and copied as a whole, or there is no metadata file. -/
def SafePut (cache : Cache R) (key : String) : Option (PutFault R) → Prop
  | some (.removing _) | some (.copying _) => cache.infos.lookup key = none
  | some (.writing _) | none => True

theorem update_eq_some {dirs : String → Option R} {dir : Option R} (h : update dirs key dir k = some r) :
    k = key ∧ dir = some r ∨ k ≠ key ∧ dirs k = some r := by
  rw [update_apply] at h
  split_ifs at h with hk
  · exact .inl ⟨hk, h⟩
  · exact .inr ⟨hk, h⟩

/-- A directory that is replaced is the only one that may be found to be different. -/
theorem found_update {dir : Option R}
    (h : ({ cache with dirs := update cache.dirs key dir } : Cache R).found k = some r) :
    k = key ∧ dir = some r ∧ cache.infos.lookup key ≠ none ∨ k ≠ key ∧ cache.found k = some r := by
  obtain ⟨hinfo, hdir⟩ := found_eq_some.mp h
  rcases update_eq_some hdir with ⟨rfl, hnew⟩ | ⟨hk, hdir⟩
  · exact .inl ⟨rfl, hnew, hinfo⟩
  · exact .inr ⟨hk, found_eq_some.mpr ⟨hinfo, hdir⟩⟩

variable {size maxBytes : UInt64} {why : String} {maxEntries : ℕ} {removals : Removals R}

/-- **What a put makes of the cache**: under its key a copy of what was put, and elsewhere what was there. -/
theorem found_put {copy : R → R} {now : Int64} {source : R} {description : String} {fault : Option (PutFault R)}
    (hsafe : SafePut cache key fault)
    (h : (put copy cacheDir cache now key source description size why fault).1.found k = some r) :
    k = key ∧ r = copy source ∨ k ≠ key ∧ cache.found k = some r := by
  have hwritten : ∀ fault' info,
      (({ cache with dirs := update cache.dirs key (some (copy source)) } : Cache R).writeMeta key info fault').found k
        = some r → k = key ∧ r = copy source ∨ k ≠ key ∧ cache.found k = some r := by
    intro fault' info h
    obtain ⟨hinfo, hdir⟩ := found_eq_some.mp h
    rw [dirs_writeMeta] at hdir
    rcases update_eq_some hdir with ⟨rfl, hnew⟩ | ⟨hk, hdir⟩
    · exact .inl ⟨rfl, (some.inj hnew).symm⟩
    · rw [infos_writeMeta_of_ne hk] at hinfo
      exact .inr ⟨hk, found_eq_some.mpr ⟨hinfo, hdir⟩⟩
  unfold put at h
  split at h
  next => exact .inr ((found_update h).resolve_left fun hk => hk.2.2 hsafe)
  next => exact .inr ((found_update h).resolve_left fun hk => hk.2.2 hsafe)
  next => exact hwritten _ _ h
  next => exact hwritten _ _ h

theorem found_invalidate {fault : Option (RemoveFault R)} (hwhole : ∀ left, fault ≠ some (.dir left))
    (h : (invalidate cacheDir cache key why fault).1.found k = some r) : cache.found k = some r := by
  unfold invalidate at h
  split at h
  next => exact absurd rfl (hwhole _)
  next =>
    rcases found_update h with ⟨-, hnone, -⟩ | ⟨-, h⟩
    · cases hnone
    · exact h
  next =>
    obtain ⟨hinfo, hdir⟩ := found_eq_some.mp h
    rcases update_eq_some hdir with ⟨-, hnone⟩ | ⟨hk, hdir⟩
    · cases hnone
    · rw [AList.lookup_erase_ne hk] at hinfo
      exact found_eq_some.mpr ⟨hinfo, hdir⟩

variable (hwhole : ∀ key left, removals.fault key ≠ some (.dir left))

include hwhole

theorem found_evict {entries count evicted}
    (h : (evict cacheDir maxEntries maxBytes removals entries cache count size evicted).1.found k = some r) :
    cache.found k = some r := by
  induction entries generalizing cache count size evicted with
  | nil => exact h
  | cons entry _ ih =>
    unfold evict at h
    split at h
    · exact h
    · have hone : (invalidate cacheDir cache entry.key removals.why (removals.fault entry.key)).1.found k = some r →
          cache.found k = some r := found_invalidate (hwhole entry.key)
      split at h
      next hinv => rw [hinv] at hone; exact hone h
      next hinv => rw [hinv] at hone; exact hone (ih h)

/-- **What is found after a prune was there before**, if no removal stops in a directory. -/
theorem found_prune {profile}
    (h : (prune profile cacheDir cache maxEntries maxBytes removals).1.found k = some r) : cache.found k = some r := by
  simp only [prune] at h
  split at h
  next => exact h
  next =>
    split_ifs at h
    · exact h
    · exact found_evict hwhole h

omit hwhole

end A3sBox.RootfsCache
