import A3sBox.Library.Processes
import A3sBox.Runtime.Layout

/-!
# Root file systems under running boxes

`store_rootfs_cache` of `runtime/src/vm/layout.rs`, `put` and `prune` of `runtime/src/cache/rootfs_cache.rs`: with the
overlay provider a cached root file system is the lower layer of every box that was booted from it. A boot that finds
none puts one in the cache, and removes those found longest ago until the others fit. Nothing says which are under a
running box.

## The model

Boots and boxes are processes that share the caches, and a step is one operation on a cache. A number says how often a
cached root file system was removed or written (`Shared.touched`); a running box keeps the one that it was mounted
with (`Lower.seen`). The metadata is listed at one moment.

`solo_store`: the steps of one process alone are `storeRootfsCache` of `A3sBox.Runtime.Layout`. `lower_undisturbed`:
when nothing under a running box is touched. `evicted_lower` is a run in which it is.
-/

namespace A3sBox.LowerLayers

open Layout Processes RootfsCache Function State
open LayerCache (MetaFault sumU64)

/-! ### Caches that boots share -/

/-- The caches. -/
structure Shared where
  caches : String → Cache Root
  /-- How often each root file system was removed or written, by directories and keys. -/
  touched : String → String → ℕ

/-- A root file system is removed or written once more. -/
def Shared.touch (shared : Shared) (dir key : String) : String → String → ℕ :=
  update shared.touched dir (update (shared.touched dir) key (shared.touched dir key + 1))

/-- Change a cache, but no root file system in it. -/
def Shared.setCache (shared : Shared) (dir : String) (cache : Cache Root) : Shared :=
  { shared with caches := update shared.caches dir cache }

/-- Change a cache and the root file system of a key in it. -/
def Shared.disturb (shared : Shared) (dir key : String) (cache : Cache Root) : Shared :=
  ⟨update shared.caches dir cache, shared.touch dir key⟩

/-- Replace or remove the directory of a root file system. -/
def Shared.setDir (shared : Shared) (dir key : String) (root : Option Root) : Shared :=
  let cache := shared.caches dir
  shared.disturb dir key { cache with dirs := update cache.dirs key root }

/-- The lower layer of a box. -/
structure Lower where
  dir : String
  key : String
  /-- How often it had been removed or written when it was mounted. -/
  seen : ℕ
  deriving DecidableEq, Repr

/-- What a process boots: a configuration, and where its root file system is cached. -/
structure Boot where
  config : BoxConfig
  dir : String
  key : String

/-- The boot of a box. -/
def bootOf (sha : List UInt8 → String) (homeDir : String) (config : BoxConfig) : Boot :=
  ⟨config, rootfsCacheDir homeDir config, cacheKey sha config.image⟩

/-- Where a process is. -/
inductive Place where
  | idle
  /-- A root file system was found. -/
  | found (boot : Boot)
  | building (boot : Boot)
  | storing (boot : Boot) (root : Root)
  /-- There is none under the key any more. -/
  | copying (boot : Boot) (root : Root)
  /-- It was copied, and its metadata is to be written. -/
  | describing (boot : Boot)
  | pruning (boot : Boot)
  /-- The entries that are left to look at, and how many there are and how large they are. -/
  | evicting (boot : Boot) (entries : List RootfsMeta) (currentCount : ℕ) (currentSize : UInt64)
  /-- The box runs, over a cached root file system or from its own. -/
  | running (lower : Option Lower)

/-- The entries of a cache fit the limits of a boot. -/
def Boot.Fits (boot : Boot) (count : ℕ) (size : UInt64) : Prop :=
  count ≤ boot.config.cache.maxRootfsEntries ∧ size ≤ boot.config.cache.maxCacheBytes

section Steps

variable {ι : Type} (profile : Profile) (sha : List UInt8 → String) (homeDir : String)

/-- The steps of a boot and of its box. -/
inductive Step : ι → Shared → Place → Shared → Place → Prop where
  /-- A root file system is found. -/
  | find {p shared} (config : BoxConfig) (host : Host) {cache cached}
      (h : tryRootfsCachePath config host (shared.caches (rootfsCacheDir homeDir config)) (cacheKey sha config.image) =
        (cache, some cached)) :
      Step p shared .idle (shared.setCache (rootfsCacheDir homeDir config) cache) (.found (bootOf sha homeDir config))
  | miss {p shared} (config : BoxConfig) (host : Host) {cache}
      (h : tryRootfsCachePath config host (shared.caches (rootfsCacheDir homeDir config)) (cacheKey sha config.image) =
        (cache, none)) :
      Step p shared .idle shared (.building (bootOf sha homeDir config))
  /-- The overlay provider mounts it, if it is still there. -/
  | mount {p shared boot} (h : (shared.caches boot.dir).dirs boot.key ≠ none) : Step p shared (.found boot) shared
      (.running (some ⟨boot.dir, boot.key, shared.touched boot.dir boot.key⟩))
  | copy {p shared boot} : Step p shared (.found boot) shared (.running none)
  | build {p shared boot} (root : Root) (h : boot.config.cache.enabled = true) :
      Step p shared (.building boot) shared (.storing boot root)
  /-- It is built and not put in the cache: that is off, or cannot be opened. -/
  | buildOnly {p shared boot} : Step p shared (.building boot) shared (.running none)
  /-- There is none under its key. -/
  | absent {p shared boot root} (h : (shared.caches boot.dir).dirs boot.key = none) :
      Step p shared (.storing boot root) shared (.copying boot root)
  | remove {p shared boot root} (h : (shared.caches boot.dir).dirs boot.key ≠ none) :
      Step p shared (.storing boot root) (shared.setDir boot.dir boot.key none) (.copying boot root)
  /-- That stops in the middle; a failure to store is only logged. -/
  | removeStops {p shared boot root} (left : Root) (h : (shared.caches boot.dir).dirs boot.key ≠ none) :
      Step p shared (.storing boot root) (shared.setDir boot.dir boot.key (some left)) (.running none)
  /-- It is copied; another one may be there by now, and the copy is then made over it. -/
  | copyIn {p shared boot root} (copied : Root)
      (h : (shared.caches boot.dir).dirs boot.key = none → copied = copyDirRecursive root) :
      Step p shared (.copying boot root) (shared.setDir boot.dir boot.key (some copied)) (.describing boot)
  | copyStops {p shared boot root} (part : Option Root) :
      Step p shared (.copying boot root) (shared.setDir boot.dir boot.key part) (.running none)
  | describe {p shared boot} (now : Int64) (size : UInt64) :
      Step p shared (.describing boot) (shared.setCache boot.dir ((shared.caches boot.dir).writeMeta boot.key
        ⟨boot.key, boot.config.image, size, now, now⟩ none)) (.pruning boot)
  | describeStops {p shared boot} (now : Int64) (size : UInt64) (fault : MetaFault) :
      Step p shared (.describing boot) (shared.setCache boot.dir ((shared.caches boot.dir).writeMeta boot.key
        ⟨boot.key, boot.config.image, size, now, now⟩ (some fault))) (.running none)
  | fits {p shared boot total}
      (hsum : sumU64 profile ((listEntries (shared.caches boot.dir)).map fun entry => entry.sizeBytes) = .ok total)
      (hfits : boot.Fits (listEntries (shared.caches boot.dir)).length total) :
      Step p shared (.pruning boot) shared (.running none)
  /-- They do not, and those found longest ago come first. -/
  | list {p shared boot total}
      (hsum : sumU64 profile ((listEntries (shared.caches boot.dir)).map fun entry => entry.sizeBytes) = .ok total)
      (hfits : ¬ boot.Fits (listEntries (shared.caches boot.dir)).length total) :
      Step p shared (.pruning boot) shared (.evicting boot
        ((listEntries (shared.caches boot.dir)).mergeSort fun a b => a.lastAccessed ≤ b.lastAccessed)
        (listEntries (shared.caches boot.dir)).length total)
  | evict {p shared boot entry entries count size} (removals : Removals Root) {cache} (hfits : ¬ boot.Fits count size)
      (h : invalidate boot.dir (shared.caches boot.dir) entry.key removals.why (removals.fault entry.key) =
        (cache, .ok ())) :
      Step p shared (.evicting boot (entry :: entries) count size) (shared.disturb boot.dir entry.key cache)
        (.evicting boot entries (count - 1) (if entry.sizeBytes ≤ size then size - entry.sizeBytes else 0))
  | evictStops {p shared boot entry entries count size} (removals : Removals Root) {cache e}
      (hfits : ¬ boot.Fits count size)
      (h : invalidate boot.dir (shared.caches boot.dir) entry.key removals.why (removals.fault entry.key) =
        (cache, .error e)) :
      Step p shared (.evicting boot (entry :: entries) count size) (shared.disturb boot.dir entry.key cache)
        (.running none)
  | evicted {p shared boot entries count size} (h : entries = [] ∨ boot.Fits count size) :
      Step p shared (.evicting boot entries count size) shared (.running none)
  /-- The boot fails or is killed, or its box stops. -/
  | leave {p shared place} : Step p shared place shared .idle

end Steps

/-- The processes, before their first steps. -/
def cached {ι : Type} (shared : Shared) : State ι Shared Place := ⟨shared, fun _ => .idle⟩

/-- No root file system under a running box was removed or written since it was mounted. -/
def Undisturbed {ι : Type} (s : State ι Shared Place) : Prop :=
  ∀ p lower, s.place p = .running (some lower) → s.shared.touched lower.dir lower.key = lower.seen

/-- Some box runs over a cache. -/
def Over {ι : Type} (s : State ι Shared Place) (dir : String) : Prop :=
  ∃ p lower, s.place p = .running (some lower) ∧ lower.dir = dir

/-- The condition on a step: a root file system is put where none is, and what is in a cache is replaced or evicted only
while no box runs over that cache. -/
def Careful {ι : Type} (s : State ι Shared Place) (p : ι) (_ : Shared) (place' : Place) : Prop :=
  place' ≠ .idle →
    match s.place p with
    | .storing boot _ | .copying boot _ => (s.shared.caches boot.dir).dirs boot.key = none ∨ ¬ Over s boot.dir
    | .evicting boot (_ :: _) count size => boot.Fits count size ∨ ¬ Over s boot.dir
    | _ => True

/-! ### What a step does to the cached root file systems -/

/-- Two states of the caches have the same root file system under a key, and it was not touched in between. -/
def SameAt (shared shared' : Shared) (dir key : String) : Prop :=
  shared'.touched dir key = shared.touched dir key ∧ (shared'.caches dir).dirs key = (shared.caches dir).dirs key

variable {dir key k : String}

variable {cache : Cache Root} {d : String} {lower : Lower} {config : BoxConfig} {boot : Boot} {shared : Shared}

/-- Changing a cache, but no root file system in it. -/
theorem sameAt_setCache (h : cache.dirs = (shared.caches dir).dirs) (d k) :
    SameAt shared (shared.setCache dir cache) d k := by
  refine ⟨rfl, ?_⟩
  by_cases hd : d = dir
  · subst hd
    simp only [Shared.setCache, update_self, h]
  · simp only [Shared.setCache, update_of_ne hd]

/-- Changing one root file system leaves the others. -/
theorem sameAt_disturb (h : ∀ k, k ≠ key → cache.dirs k = (shared.caches dir).dirs k) (hne : d = dir → k ≠ key) :
    SameAt shared (shared.disturb dir key cache) d k := by
  by_cases hd : d = dir
  · subst hd
    simp only [SameAt, Shared.disturb, Shared.touch, update_self, update_of_ne (hne rfl), true_and]
    exact h k (hne rfl)
  · simp only [SameAt, Shared.disturb, Shared.touch, update_of_ne hd, and_self]

theorem sameAt_setDir {root} (hne : d = dir → k ≠ key) : SameAt shared (shared.setDir dir key root) d k :=
  sameAt_disturb (fun _ hk => update_of_ne hk ..) hne

theorem dirs_get (cache : Cache Root) (now : Int64) (key : String) (fault : Option MetaFault) :
    (get cache now key fault).1.dirs = cache.dirs := by
  unfold RootfsCache.get
  split
  next => exact dirs_writeMeta ..
  next => rfl
  next => rfl

theorem dirs_tryRootfsCachePath (config : BoxConfig) (host : Host) (cache : Cache Root) (key : String) :
    (tryRootfsCachePath config host cache key).1.dirs = cache.dirs := by
  unfold tryRootfsCachePath
  split_ifs
  · exact dirs_get ..
  · rfl

variable (dir : String)

theorem dirs_invalidate_of_ne (cache) (hk : k ≠ key) (why : String)
    (fault : Option (RemoveFault Root)) : (invalidate dir cache key why fault).1.dirs k = cache.dirs k := by
  unfold invalidate
  split
  next => exact update_of_ne hk ..
  next => exact update_of_ne hk ..
  next => exact update_of_ne hk ..

section Frame

variable {ι : Type} {profile : Profile} {sha : List UInt8 → String} {homeDir : String} {p : ι}
  {shared shared' : Shared} {place place' : Place}

/-- The root file system that a step at a place may remove or write. -/
def Targets (dir key : String) : Place → Prop
  | .storing boot _ | .copying boot _ => dir = boot.dir ∧ key = boot.key
  | .evicting boot (entry :: _) count size => dir = boot.dir ∧ key = entry.key ∧ ¬ boot.Fits count size
  | _ => False

/-- **What a step leaves**: every root file system, or all but the one that it may remove or write. -/
theorem Step.sameAt (h : Step profile sha homeDir p shared place shared' place') (dir key) :
    SameAt shared shared' dir key ∨ place' ≠ .idle ∧ Targets dir key place := by
  -- a step that changes one root file system leaves all others
  have hstored : ∀ (boot : Boot) (root : Option Root),
      SameAt shared (shared.setDir boot.dir boot.key root) dir key ∨ dir = boot.dir ∧ key = boot.key := by
    intro boot root
    by_cases htarget : dir = boot.dir ∧ key = boot.key
    · exact .inr htarget
    · exact .inl (sameAt_setDir fun hdir hkey => htarget ⟨hdir, hkey⟩)
  have hevicted : ∀ (boot : Boot) (entry : RootfsMeta) (removals : Removals Root) (cache : Cache Root)
      (result : Except BoxError Unit),
      invalidate boot.dir (shared.caches boot.dir) entry.key removals.why (removals.fault entry.key) =
        (cache, result) →
      SameAt shared (shared.disturb boot.dir entry.key cache) dir key ∨ dir = boot.dir ∧ key = entry.key := by
    intro boot entry removals cache result hinvalidate
    by_cases htarget : dir = boot.dir ∧ key = entry.key
    · exact .inr htarget
    · refine .inl (sameAt_disturb (fun k hk => ?_) fun hdir hkey => htarget ⟨hdir, hkey⟩)
      have hdirs := dirs_invalidate_of_ne boot.dir (shared.caches boot.dir) hk removals.why (removals.fault entry.key)
      rwa [hinvalidate] at hdirs
  cases h with
  | find config host h =>
    have hdirs := dirs_tryRootfsCachePath config host (shared.caches (rootfsCacheDir homeDir config))
      (cacheKey sha config.image)
    rw [h] at hdirs
    exact .inl (sameAt_setCache hdirs dir key)
  | miss | mount | copy | build | buildOnly | absent | fits | list | evicted | leave =>
    exact .inl ⟨rfl, rfl⟩
  | describe | describeStops => exact .inl (sameAt_setCache (dirs_writeMeta ..) dir key)
  | remove | removeStops | copyIn | copyStops => exact (hstored _ _).imp_right fun htarget => ⟨nofun, htarget⟩
  | evict removals hfits h | evictStops removals hfits h =>
    exact (hevicted _ _ _ _ _ h).imp_right fun htarget => ⟨nofun, htarget.1, htarget.2, hfits⟩

/-- A box comes to run over a root file system that is there. -/
theorem Step.running (h : Step profile sha homeDir p shared place shared' (.running (some lower))) :
    shared' = shared ∧ shared.touched lower.dir lower.key = lower.seen ∧
      (shared.caches lower.dir).dirs lower.key ≠ none := by
  cases h with
  | mount h => exact ⟨rfl, rfl, h⟩

end Frame

/-! ### One boot alone -/

section Solo

variable {profile : Profile} {sha : List UInt8 → String} {homeDir : String}

/-- Steps of one process, while no other takes any. -/
def Solo (profile : Profile) (sha : List UInt8 → String) (homeDir : String) : Shared × Place → Shared × Place → Prop :=
  Relation.ReflTransGen fun a b => Step profile sha homeDir () a.1 a.2 b.1 b.2

theorem Solo.next {a b place} (h : Step profile sha homeDir () shared place a.1 a.2)
    (hrest : Solo profile sha homeDir a b) : Solo profile sha homeDir (shared, place) b :=
  Relation.ReflTransGen.head h hrest

variable (shared : Shared)

@[simp] theorem caches_setCache (cache) : (shared.setCache dir cache).caches dir = cache := update_self ..

@[simp] theorem caches_disturb (dir key) (cache) :
    (shared.disturb dir key cache).caches dir = cache := update_self ..

@[simp] theorem caches_setDir (dir key) (root : Option Root) : (shared.setDir dir key root).caches dir =
      { shared.caches dir with dirs := update (shared.caches dir).dirs key root } := update_self ..

variable (profile sha homeDir)

theorem solo_evict (boot) (removals : Removals Root) (entries : List RootfsMeta) (shared)
    (count : ℕ) (size : UInt64) (evicted : ℕ) :
    ∃ left, Solo profile sha homeDir (shared, .evicting boot entries count size) left ∧ left.1.caches boot.dir =
        (evict boot.dir boot.config.cache.maxRootfsEntries boot.config.cache.maxCacheBytes removals entries
          (shared.caches boot.dir) count size evicted).1 := by
  induction entries generalizing shared count size evicted with
  | nil => exact ⟨_, .refl, rfl⟩
  | cons entry _ ih =>
    unfold evict
    by_cases hfits : count ≤ boot.config.cache.maxRootfsEntries ∧ size ≤ boot.config.cache.maxCacheBytes
    · rw [if_pos hfits]
      exact ⟨_, .refl, rfl⟩
    · rw [if_neg hfits]
      rcases hinvalidate : invalidate boot.dir (shared.caches boot.dir) entry.key removals.why
        (removals.fault entry.key) with ⟨cache, e | ⟨⟩⟩
      · exact ⟨_, .next (a := (_, _)) (.evictStops removals hfits hinvalidate) .refl, caches_disturb ..⟩
      · obtain ⟨left, hsolo, hleft⟩ := ih (shared.disturb boot.dir entry.key cache) (count - 1)
          (if entry.sizeBytes ≤ size then size - entry.sizeBytes else 0) (evicted + 1)
        rw [caches_disturb] at hleft
        exact ⟨left, .next (a := (_, _)) (.evict removals hfits hinvalidate) hsolo, hleft⟩

theorem solo_prune (boot) (removals : Removals Root) (shared) :
    ∃ left, Solo profile sha homeDir (shared, .pruning boot) left ∧ left.1.caches boot.dir =
        (prune profile boot.dir (shared.caches boot.dir) boot.config.cache.maxRootfsEntries
          boot.config.cache.maxCacheBytes removals).1 := by
  simp only [prune]
  split
  next => exact ⟨_, .refl, rfl⟩
  next total hsum =>
    split_ifs with hfits
    · exact ⟨_, .refl, rfl⟩
    · obtain ⟨left, hsolo, hleft⟩ := solo_evict profile sha homeDir boot removals
        ((listEntries (shared.caches boot.dir)).mergeSort
          fun a b => a.lastAccessed ≤ b.lastAccessed) shared _ total 0
      exact ⟨left, .next (a := (_, _)) (.list hsum hfits) hsolo, hleft⟩

/-- What is built is put where nothing is any more. -/
theorem solo_remove (henabled : boot.config.cache.enabled = true) (root : Root) (shared) :
    ∃ shared', Solo profile sha homeDir (shared, .building boot) (shared', .copying boot root) ∧
      shared'.caches boot.dir =
        { shared.caches boot.dir with dirs := update (shared.caches boot.dir).dirs boot.key none } := by
  by_cases hnone : (shared.caches boot.dir).dirs boot.key = none
  · refine ⟨shared, .next (a := (_, _)) (.build root henabled) <| .next (a := (_, _)) (.absent hnone) .refl, ?_⟩
    rw [← hnone, update_eq_self]
  · exact ⟨_, .next (a := (_, _)) (.build root henabled) <| .next (a := (_, _)) (.remove hnone) .refl, caches_setDir ..⟩

/-- The steps of `put`, wherever it fails. -/
theorem solo_put (henabled : boot.config.cache.enabled = true) (root : Root) (now : Int64) (size : UInt64) (why : String)
    (fault) (shared) :
    ∃ left result, Solo profile sha homeDir (shared, .building boot) left ∧
      put copyDirRecursive boot.dir (shared.caches boot.dir) now boot.key root boot.config.image size why fault =
        (left.1.caches boot.dir, result) ∧
      ∀ path, result = .ok path → left.2 = .pruning boot := by
  obtain ⟨shared', hsolo, hcaches⟩ := solo_remove profile sha homeDir henabled root shared
  unfold put
  split
  next left hsome =>
    refine ⟨_, _, .next (a := (_, _)) (.build root henabled) <|
      .next (a := (_, _)) (.removeStops left (by simp [hsome])) .refl, Prod.ext ?_ rfl, nofun⟩
    simp
  next part =>
    refine ⟨_, _, hsolo.trans <| Solo.next (a := (_, _)) (.copyStops part) .refl, Prod.ext ?_ rfl, nofun⟩
    simp [hcaches]
  next fault =>
    refine ⟨_, _, hsolo.trans <| Solo.next (a := (_, _)) (.copyIn (copyDirRecursive root) fun _ => rfl) <|
      .next (a := (_, _)) (.describeStops now size fault) .refl, Prod.ext ?_ rfl, nofun⟩
    simp [hcaches]
  next =>
    refine ⟨_, _, hsolo.trans <| Solo.next (a := (_, _)) (.copyIn (copyDirRecursive root) fun _ => rfl) <|
      .next (a := (_, _)) (.describe now size) .refl, Prod.ext ?_ rfl, fun _ _ => rfl⟩
    simp [hcaches]

/-- **A boot alone** does with what it has built what `storeRootfsCache` says, wherever that fails. -/
theorem solo_store (host) (root : Root) (shared) :
    ∃ left, Solo profile sha homeDir (shared, .building (bootOf sha homeDir config)) left ∧
      left.1.caches (rootfsCacheDir homeDir config) =
        storeRootfsCache profile homeDir config host (shared.caches (rootfsCacheDir homeDir config))
          (cacheKey sha config.image) root := by
  unfold storeRootfsCache
  split_ifs with hstores
  · have henabled : (bootOf sha homeDir config).config.cache.enabled = true := (Bool.and_eq_true_iff.mp hstores).1
    obtain ⟨⟨shared', _⟩, result, hsolo, hput, hplace⟩ := solo_put profile sha homeDir henabled root host.now host.size
      host.why host.putFault shared
    dsimp only [bootOf] at hput
    simp only [hput]
    rcases result with _ | path
    · exact ⟨_, hsolo, rfl⟩
    · obtain rfl := hplace path rfl
      obtain ⟨left, hpruned, hleft⟩ := solo_prune profile sha homeDir (bootOf sha homeDir config) host.removals shared'
      exact ⟨left, hsolo.trans hpruned, hleft⟩
  · exact ⟨_, .refl, rfl⟩

end Solo

/-! ### Runs -/

section Runs

variable {ι : Type} [DecidableEq ι] {profile : Profile} {sha : List UInt8 → String} {homeDir : String}
  {s : State ι Shared Place}

/-- The root file system under each running box is there, and it was not touched. -/
def Held (s : State ι Shared Place) : Prop :=
  ∀ p lower, s.place p = .running (some lower) → s.shared.touched lower.dir lower.key = lower.seen ∧
    (s.shared.caches lower.dir).dirs lower.key ≠ none

omit [DecidableEq ι] in
/-- A careful step does not target a root file system under a running box. -/
theorem not_targets (hheld : Held s) {p q : ι} {shared' : Shared} {place' : Place}
    (hcareful : Careful s p shared' place') (hidle : place' ≠ .idle)
    (hlower : s.place q = .running (some lower)) : ¬ Targets lower.dir lower.key (s.place p) := by
  have hthere := (hheld q lower hlower).2
  have hover : Over s lower.dir := ⟨q, lower, hlower, rfl⟩
  have hmeets := hcareful hidle
  intro htargets
  cases hplace : s.place p with
  | storing boot root | copying boot root =>
    rw [hplace] at hmeets htargets
    obtain ⟨hdir, hkey⟩ := htargets
    rw [hdir, hkey] at hthere
    rw [hdir] at hover
    exact hmeets.elim hthere fun hnot => hnot hover
  | evicting _ entries =>
    rw [hplace] at hmeets htargets
    cases entries with
    | nil => exact htargets
    | cons =>
      obtain ⟨hdir, -, hfits⟩ := htargets
      rw [hdir] at hover
      exact hmeets.elim hfits fun hnot => hnot hover
  | idle | found | building | describing | pruning | running =>
    rw [hplace] at htargets
    exact htargets

/-- A careful step keeps what is under the running boxes. -/
theorem Held.step (hheld : Held s) {p shared' place'}
    (h : Step profile sha homeDir p s.shared (s.place p) shared' place')
    (hcareful : Careful s p shared' place') : Held (s.move p shared' place') := by
  intro q lower hlower
  by_cases hq : q = p
  · subst hq
    rw [move_place_self] at hlower
    subst hlower
    obtain ⟨rfl, hseen, hthere⟩ := h.running
    exact ⟨hseen, hthere⟩
  · rw [move_place_ne _ hq] at hlower
    obtain ⟨hseen, hthere⟩ := hheld q lower hlower
    rcases h.sameAt lower.dir lower.key with ⟨htouched, hdirs⟩ | ⟨hidle, htargets⟩
    · rw [move_shared, htouched, hdirs]
      exact ⟨hseen, hthere⟩
    · exact absurd htargets (not_targets hheld hcareful hidle hlower)

/-- **Root file systems under running boxes are left alone**, if they are put where none is, and are replaced or evicted
only while no box runs over that cache. -/
theorem lower_undisturbed {shared : Shared} {s : State ι Shared Place}
    (h : Run (Step profile sha homeDir) Careful (cached shared) s) : Undisturbed s := by
  have hheld : Held s := h.induct nofun fun s p shared place hheld hstep hcareful => hheld.step hstep hcareful
  exact fun p lower hlower => (hheld p lower hlower).1

end Runs

/-! ### Two boxes -/

/-- A box of an image, and how many root file systems are kept. -/
def boxOf (image : String) (limit : ℕ) : BoxConfig := { image := image, cache := { maxRootfsEntries := limit } }

/-- The boot of a box of `b`. -/
def bootB (limit : ℕ) : Boot := bootOf Text.hexEncode "/home" (boxOf "b" limit)

/-- The cache of two boxes. -/
def cacheDir : String := rootfsCacheDir "/home" (boxOf "a" 0)

/-- The key of `a`. -/
def keyA : String := cacheKey Text.hexEncode "a"

/-- The key of `b`. -/
def keyB : String := cacheKey Text.hexEncode "b"

/-- A cache with the root file system of `a`. -/
def cacheA : Cache Root :=
  ⟨update (fun _ => none) keyA (some .empty), AList.singleton keyA (some ⟨keyA, "a", 10, 0, 0⟩)⟩

/-- One image is cached. -/
def sharedA : Shared := ⟨update (fun _ => .empty) cacheDir cacheA, fun _ _ => 0⟩

/-- The root file system under the box of `a`. -/
def lowerA : Lower := ⟨cacheDir, keyA, 0⟩

/-- The cache once the root file system of `b` is in it, too. -/
def cacheAB : Cache Root :=
  ({ cacheA with dirs := update cacheA.dirs keyB (some .empty) } : Cache Root).writeMeta keyB
    ⟨keyB, "b", 10, 5, 5⟩ none

theorem keyB_ne : keyB ≠ keyA := by decide +kernel

theorem find_a (limit : ℕ) :
    tryRootfsCachePath (boxOf "a" limit) plainHost (sharedA.caches cacheDir) keyA = (cacheA, some .empty) := by
  have hshared : sharedA.caches cacheDir = cacheA := by simp only [sharedA, update_self]
  have hlookup : cacheA.infos.lookup keyA = some (some ⟨keyA, "a", 10, 0, 0⟩) := List.dlookup_cons_eq ..
  have hdir : cacheA.dirs keyA = some .empty := by simp only [cacheA, update_self]
  change RootfsCache.get _ 0 keyA none = _
  rw [hshared]
  simp only [RootfsCache.get, hlookup, hdir, Cache.writeMeta]
  simp only [cacheA, AList.insert_singleton_eq]

theorem miss_b (limit : ℕ) : tryRootfsCachePath (boxOf "b" limit) plainHost cacheA keyB = (cacheA, none) := by
  have hdir : cacheA.dirs keyB = none := by simp only [cacheA, update_of_ne keyB_ne]
  change RootfsCache.get _ 0 keyB none = _
  simp only [RootfsCache.get, hdir]

/-- The caches once the root file system of `a` was found. -/
def foundA : Shared := sharedA.setCache cacheDir cacheA

/-- It is reached with care. -/
def Runs (s : State Bool Shared Place) : Prop :=
  Run (Step .release Text.hexEncode "/home") Careful (cached sharedA) s

/-- A box of `a` runs, and a boot of `b` has put its root file system in the cache. -/
theorem run_both (limit : ℕ) : ∃ s, Runs s ∧ s.place false = .running (some lowerA) ∧
      s.place true = .pruning (bootB limit) ∧ s.shared.caches cacheDir = cacheAB ∧
      s.shared.touched cacheDir keyA = 0 := by
  have hA : foundA.caches cacheDir = cacheA := caches_setCache ..
  have hdirA : (foundA.caches cacheDir).dirs keyA ≠ none := by
    rw [hA]
    simp only [cacheA, update_self]
    exact Option.some_ne_none _
  have hdirB : (foundA.caches cacheDir).dirs keyB = none := by
    rw [hA]
    simp only [cacheA, update_of_ne keyB_ne]
  have hmiss : tryRootfsCachePath (boxOf "b" limit) plainHost (foundA.caches cacheDir) keyB = (cacheA, none) :=
    miss_b limit
  have h₁ : Runs ((cached sharedA).move false foundA (.found _)) :=
    .step false .start (.find (boxOf "a" limit) plainHost (find_a limit)) fun _ => trivial
  have h₂ : Runs (move _ false foundA (.running (some lowerA))) :=
    .step false h₁ (.mount hdirA) fun _ => trivial
  have h₃ : Runs (move _ true foundA (.building (bootB limit))) :=
    .step true h₂ (.miss (boxOf "b" limit) plainHost hmiss) fun _ => trivial
  have h₄ : Runs (move _ true foundA (.storing (bootB limit) .empty)) :=
    .step true h₃ (.build .empty rfl) fun _ => trivial
  have h₅ : Runs (move _ true foundA (.copying (bootB limit) .empty)) :=
    .step true h₄ (.absent hdirB) fun _ => .inl hdirB
  have h₆ : Runs (move _ true (foundA.setDir cacheDir keyB (some .empty)) (.describing (bootB limit))) :=
    .step true h₅ (.copyIn .empty fun _ => rfl) fun _ => .inl hdirB
  refine ⟨_, .step true h₆ (.describe 5 10) fun _ => trivial, rfl, rfl, ?_, ?_⟩
  · rfl
  · have hsame : SameAt foundA (foundA.setDir cacheDir keyB (some .empty)) cacheDir keyA :=
      sameAt_setDir fun _ => keyB_ne.symm
    exact hsame.1

theorem listEntries_ab : listEntries cacheAB = [⟨keyB, "b", 10, 5, 5⟩, ⟨keyA, "a", 10, 0, 0⟩] := by decide +kernel

/-- Two root file systems are kept: the one of `a` is left alone. -/
theorem kept_lower : ∃ s, Runs s ∧ s.place false = .running (some lowerA) ∧ s.place true = .running none ∧
    Undisturbed s := by
  obtain ⟨s, hrun, hA, hB, hcaches, -⟩ := run_both 2
  have hsum : sumU64 .release ((listEntries (s.shared.caches cacheDir)).map fun entry => entry.sizeBytes) =
      .ok 20 := by
    rw [hcaches, listEntries_ab]
    rfl
  have hfits : (bootB 2).Fits (listEntries (s.shared.caches cacheDir)).length 20 := by
    rw [hcaches, listEntries_ab]
    exact ⟨by decide, by decide⟩
  have hnext : Runs (s.move true s.shared (.running none)) :=
    .step true hrun (by rw [hB]; exact .fits hsum hfits) (by rw [Careful, hB]; exact fun _ => trivial)
  exact ⟨_, hnext, hA, rfl, lower_undisturbed hnext⟩

theorem mergeSort_pair {α : Type} {le : α → α → Bool} {a b : α} (h : le a b = false) :
    [a, b].mergeSort le = [b, a] := by
  simp [List.mergeSort, h]

theorem invalidate_none (cache : Cache Root) (key why : String) : invalidate dir cache key why none =
      (⟨update cache.dirs key none, cache.infos.erase key⟩, .ok ()) := by
  unfold invalidate
  rcases cache.dirs key with _ | _ <;> rcases cache.infos.lookup key with _ | _ <;> rfl

/-- One root file system is kept: the one of `a` is removed under its box. -/
theorem evicted_lower : ∃ s : State Bool Shared Place,
    Run (Step .release Text.hexEncode "/home") (fun _ _ _ _ => True) (cached sharedA) s ∧
      s.place false = .running (some lowerA) ∧ (s.shared.caches cacheDir).dirs keyA = none ∧ ¬ Undisturbed s := by
  obtain ⟨s, hcareful, hA, hB, hcaches, _⟩ := run_both 1
  have hrun : Run (Step .release Text.hexEncode "/home") (fun _ _ _ _ => True) (cached sharedA) s :=
    hcareful.mono fun _ _ _ _ _ => trivial
  have hlisted : Step .release Text.hexEncode "/home" true s.shared (.pruning (bootB 1)) s.shared
      (.evicting (bootB 1) [⟨keyA, "a", 10, 0, 0⟩, ⟨keyB, "b", 10, 5, 5⟩] 2 20) := by
    have hstep := @Step.list Bool .release Text.hexEncode "/home" true s.shared (bootB 1) 20
    change sumU64 .release ((listEntries (s.shared.caches cacheDir)).map fun entry => entry.sizeBytes) = .ok 20 →
      ¬ (bootB 1).Fits (listEntries (s.shared.caches cacheDir)).length 20 → Step .release Text.hexEncode "/home" true
        s.shared (.pruning (bootB 1)) s.shared (.evicting (bootB 1)
          ((listEntries (s.shared.caches cacheDir)).mergeSort fun a b => a.lastAccessed ≤ b.lastAccessed)
          (listEntries (s.shared.caches cacheDir)).length 20) at hstep
    rw [hcaches, listEntries_ab] at hstep
    rw [mergeSort_pair (by decide)] at hstep
    exact hstep rfl fun hfits => absurd hfits.1 (by decide)
  have h₁ : Run (Step .release Text.hexEncode "/home") (fun _ _ _ _ => True) (cached sharedA)
      (s.move true s.shared (.evicting (bootB 1) [⟨keyA, "a", 10, 0, 0⟩, ⟨keyB, "b", 10, 5, 5⟩] 2 20)) :=
    .step true hrun (by rw [hB]; exact hlisted) trivial
  have hnot : ¬ (bootB 1).Fits 2 20 := fun hfits => absurd hfits.1 (by decide)
  refine ⟨_, .step true h₁ (.evict ⟨fun _ => none, ""⟩ hnot (invalidate_none ..)) trivial, hA, ?_, fun hleft => ?_⟩
  · exact update_self ..
  · have hseen : s.shared.touch cacheDir keyA cacheDir keyA = 0 := hleft false lowerA hA
    simp [Shared.touch] at hseen

end A3sBox.LowerLayers
