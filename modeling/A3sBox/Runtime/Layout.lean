import A3sBox.Core.Config
import A3sBox.Library.Overlay
import A3sBox.Image.Rootfs
import A3sBox.Runtime.RootfsCache

/-!
# Where a box boots from

`runtime/src/vm/layout.rs` and `runtime/src/rootfs/provider.rs`: if the root file system of the image's reference is
cached, the copy provider copies it to `rootfs` in the box directory, unless that exists, and the overlay provider
mounts it under `upper`. Otherwise it is built in `rootfs`, over what is there, and put in the cache.

## The model

A root file system is what is at each location, and where its links lead the paths that the runtime writes (`leads`).
An image is what the extraction of its layers makes of a directory, or its failure: any function. Modes are those that
the extraction sets; a copy (`copyDirRecursive`) makes directories anew and takes the setuid and setgid bits from
files. Owners, times, extended attributes and the modes of what the runtime writes itself are left out, and so is a
box that `snapshot restore` made. `Mount` says which part of a `BoxDir` a box was booted from.

`rootfs_fresh`: when a new box boots from what is built from the image that its reference has. `stale_rootfs`,
`polluted_rootfs` and `lost_mode` are runs in which it does not.
-/

namespace A3sBox.Layout

open Overlay RootfsCache Rootfs Text Function List Option
open LayerCache (MetaFault)

/-! ### Root file systems -/

/-- A path below a root file system, as its names. -/
abbrev Path := List String

/-- The content of a file. -/
abbrev File := List UInt8

/-- A root file system. -/
structure Root where
  files : Files Path File
  /-- Where a path that is written leads, if that is in the root file system. -/
  leads : Path → Option Path
  /-- The modes of its files and directories, as the extraction of the layers sets them. -/
  modes : Path → Option ℕ

/-- A directory that was just made. -/
def Root.empty : Root := ⟨fun _ => none, some, fun _ => none⟩

/-- Read a path. -/
def Root.read (root : Root) (path : Path) : Option File := root.leads path >>= root.files

/-- Write to a path. -/
def Root.write (root : Root) (path : Path) (file : File) : Root :=
  match root.leads path with
  | none => root
  | some location => { root with files := update root.files location (some file) }

/-- The guest's first process. -/
def initPath : Path := ["sbin", "init"]

/-- The users. -/
def passwdPath : Path := ["etc", "passwd"]

/-- The groups. -/
def groupPath : Path := ["etc", "group"]

/-- The hosts. -/
def hostsPath : Path := ["etc", "hosts"]

/-- The DNS servers. -/
def resolvPath : Path := ["etc", "resolv.conf"]

/-- The sources of names. -/
def nsswitchPath : Path := ["etc", "nsswitch.conf"]

/-- An image: what the extraction of its layers makes of a directory. -/
structure Image where
  extract : Root → Option Root

/-- Install the guest's first process, if there is one to install. -/
def installGuestInit (guestInit : Option File) (root : Root) : Root :=
  match guestInit with
  | some file => root.write initPath file
  | none => root

/-- Write the files that a box cannot do without. -/
def createEssentialFiles (root : Root) : Root :=
  let root := root.write passwdPath (ensureEntries requiredUsers (root.read passwdPath))
  let root := root.write groupPath (ensureEntries requiredGroups (root.read groupPath))
  let root := root.write hostsPath (utf8 hostsText)
  let root := root.write resolvPath (utf8 resolvText)
  root.write nsswitchPath (utf8 nsswitchText)

/-- Build the root file system of an image in a directory. -/
def Image.build (image : Image) (guestInit : Option File) (root : Root) : Option Root :=
  (image.extract root).map fun root => createEssentialFiles (installGuestInit guestInit root)

/-- The mode of a copy: a directory is made anew, and `lchown` takes from a file the bits that run it as its owner or
group. -/
def copiedMode (isFile : Bool) (mode : ℕ) : ℕ :=
  if isFile then mode &&& (if mode &&& 0o10 = 0 then 0o3777 else 0o1777) else 0o755

/-- Copy a root file system. -/
def copyDirRecursive (root : Root) : Root :=
  { root with modes := fun path => (root.modes path).map (copiedMode (root.files path).isSome) }

/-! ### Box directories and providers -/

/-- The upper layer of a box. -/
structure UpperDir where
  files : Upper Path File
  leads : Option (Path → Option Path)
  modes : Option (Path → Option ℕ)

/-- What a box directory holds. -/
structure BoxDir where
  rootfs : Option Root
  upper : UpperDir

/-- The directory of a new box. -/
def BoxDir.new : BoxDir := ⟨none, ⟨fun _ => none, none, none⟩⟩

/-- A cached root file system under an upper layer. -/
def merged (lower : Root) (upper : UpperDir) : Root :=
  ⟨merge lower.files upper.files, upper.leads.getD lower.leads, upper.modes.getD lower.modes⟩

/-- Which part of its directory a box was booted from. -/
inductive Mount where
  | direct
  /-- `merged`: the upper layer over a cached root file system. -/
  | union (lower : Root)

/-- The root file system that the box has. -/
def Mount.view : Mount → BoxDir → Root
  | .direct, box => box.rootfs.getD .empty
  | .union lower, box => merged lower box.upper

/-- A box changes its files. -/
def Mount.change : Mount → BoxDir → List (Path × Option File) → BoxDir
  | .direct, box, changes =>
    let root := box.rootfs.getD .empty
    { box with rootfs := some { root with files := Overlay.change root.files changes } }
  | .union lower, box, changes =>
    { box with upper := { box.upper with files := record lower.files box.upper.files changes } }

/-- The runtime writes to a path. -/
def Mount.write (mount : Mount) (box : BoxDir) (path : Path) (file : File) : BoxDir :=
  match (mount.view box).leads path with
  | none => box
  | some location => mount.change box [(location, some file)]

/-- The providers. -/
inductive Provider where
  | copy
  | overlay
  deriving DecidableEq, Repr

/-- Make a root file system for a box from a cached one. -/
def Provider.prepare : Provider → BoxDir → Root → BoxDir × Mount
  | .copy, box, cached => ({ box with rootfs := some (box.rootfs.getD (copyDirRecursive cached)) }, .direct)
  | .overlay, box, cached => (box, .union cached)

/-- What is left of a box directory when the box stops. -/
def Provider.cleanup : Provider → BoxDir → Bool → BoxDir
  | _, box, true => box
  | .copy, box, false => { box with rootfs := none }
  | .overlay, box, false => { box with upper := BoxDir.new.upper }

/-! ### The layout -/

/-- What the rest of the system does at a boot. -/
structure Host where
  now : Int64
  /-- The guest's first process, if it is found. -/
  guestInit : Option File
  /-- Whether the cache can be opened to look something up. -/
  opens : Bool
  opensToStore : Bool
  getFault : Option MetaFault
  putFault : Option (PutFault Root)
  why : String
  size : UInt64
  removals : Removals Root

/-- The directory of all caches. -/
def resolveCacheDir (homeDir : String) (config : BoxConfig) : String :=
  config.cache.cacheDir.getD (homeDir ++ "/cache")

/-- The directory of the cache of root file systems. -/
def rootfsCacheDir (homeDir : String) (config : BoxConfig) : String := resolveCacheDir homeDir config ++ "/rootfs"

/-- The key of the root file system of a reference. -/
def cacheKey (sha : List UInt8 → String) (reference : String) : String := computeKey sha reference [] [] []

/-- Look up a root file system. -/
def tryRootfsCachePath (config : BoxConfig) (host : Host) (cache : Cache Root) (key : String) :
    Cache Root × Option Root :=
  if config.cache.enabled && host.opens then get cache host.now key host.getFault else (cache, none)

/-- Put a root file system in the cache, and prune the cache. Failures are only logged. -/
def storeRootfsCache (profile : Profile) (homeDir : String) (config : BoxConfig) (host : Host) (cache : Cache Root)
    (key : String) (root : Root) : Cache Root :=
  if config.cache.enabled && host.opensToStore then
    let dir := rootfsCacheDir homeDir config
    match put copyDirRecursive dir cache host.now key root config.image host.size host.why host.putFault with
    | (cache, .ok _) =>
      (prune profile dir cache config.cache.maxRootfsEntries config.cache.maxCacheBytes host.removals).1
    | (cache, .error _) => cache
  else cache

/-- Make a root file system for a box from a cached one, with the guest's first process of now. -/
def prepareCached (provider : Provider) (guestInit : Option File) (box : BoxDir) (cached : Root) : BoxDir × Mount :=
  let (box, mount) := provider.prepare box cached
  match guestInit with
  | some file => (mount.write box initPath file, mount)
  | none => (box, mount)

/-- Prepare the root file system of a box whose reference has this image: the cache afterwards, and the box directory
with what the box boots from, unless the build fails. -/
def prepareLayout (profile : Profile) (sha : List UInt8 → String) (homeDir : String) (provider : Provider)
    (config : BoxConfig) (host : Host) (image : Image) (cache : Cache Root) (box : BoxDir) :
    Cache Root × Option (BoxDir × Mount) :=
  let key := cacheKey sha config.image
  match tryRootfsCachePath config host cache key with
  | (cache, some cached) => (cache, some (prepareCached provider host.guestInit box cached))
  | (cache, none) =>
    match image.build host.guestInit (box.rootfs.getD .empty) with
    | none => (cache, none)
    | some root =>
      (storeRootfsCache profile homeDir config host cache key root, some ({ box with rootfs := some root }, .direct))

/-! ### Writes -/

@[simp] theorem leads_write (root : Root) (path : Path) (file : File) : (root.write path file).leads = root.leads := by
  unfold Root.write
  split <;> rfl

/-- A path leads to another location than the guest's first process. -/
def Root.Apart (root : Root) (path : Path) : Prop :=
  ∀ location, root.leads path = some location → root.leads initPath ≠ some location

theorem write_write (root : Root) (path : Path) (file file' : File) :
    (root.write path file).write path file' = root.write path file' := by
  rcases h : root.leads path with _ | _
  · simp [Root.write, h]
  · simp [Root.write, h]

variable {root : Root} {id : String}

variable {path : Path} {k : String} {r : Root} {mount : Mount}

theorem write_comm (hapart : root.Apart path) (file init : File) :
    (root.write path file).write initPath init = (root.write initPath init).write path file := by
  rcases h : root.leads path with _ | location
  · simp only [Root.write, h]
    split
    next => simp only [h]
    next => simp [h]
  · rcases h' : root.leads initPath with _ | location'
    · simp only [Root.write, h, h']
    · have hne : location ≠ location' := fun heq => hapart location h (heq ▸ h')
      simp only [Root.write, h, h', update_comm hne]

theorem read_write (hapart : root.Apart path) (init : File) :
    (root.write initPath init).read path = root.read path := by
  rcases h : root.leads path with _ | location
  · simp only [Root.read, leads_write, h]
    rfl
  · rcases h' : root.leads initPath with _ | location'
    · simp [Root.write, h']
    · have hne : location ≠ location' := fun heq => hapart location h (heq ▸ h')
      simp only [Root.read, Root.write, h, h']
      exact update_of_ne hne ..

/-- The paths that a build writes beside the guest's first process. -/
def essentialPaths : List Path := [passwdPath, groupPath, hostsPath, resolvPath, nsswitchPath]

theorem leads_createEssentialFiles (root) : (createEssentialFiles root).leads = root.leads := by
  simp [createEssentialFiles]

/-- The guest's first process may as well be written after the other files. -/
theorem write_createEssentialFiles (hapart : ∀ path ∈ essentialPaths, root.Apart path) (init : File) :
    (createEssentialFiles root).write initPath init = createEssentialFiles (root.write initPath init) := by
  have happly : ∀ path ∈ essentialPaths, ∀ root' : Root, root'.leads = root.leads → root'.Apart path := by
    intro path hpath root' hleads location hlocation
    rw [hleads] at hlocation ⊢
    exact hapart path hpath location hlocation
  simp only [essentialPaths, forall_mem_cons, not_mem_nil, false_imp_iff, implies_true, and_true] at happly
  obtain ⟨hpasswd, hgroup, hhosts, hresolv, hnsswitch⟩ := happly
  simp only [createEssentialFiles]
  rw [write_comm (hnsswitch _ (by simp only [leads_write])), write_comm (hresolv _ (by simp only [leads_write])),
    write_comm (hhosts _ (by simp only [leads_write])), write_comm (hgroup _ (by simp only [leads_write])),
    read_write (hpasswd _ rfl)]
  rw [← write_comm (hpasswd _ rfl), read_write (hgroup _ (by simp only [leads_write]))]

/-- An image whose links do not lead the paths that a build writes to the guest's first process. -/
def Image.Tidy (image : Image) : Prop :=
  ∀ root, image.extract .empty = some root → ∀ path ∈ essentialPaths, root.Apart path

variable {image : Image}

/-- **Refreshing the guest's first process** in what was built makes it what would be built now. -/
theorem build_refresh (htidy : image.Tidy) {old new} (h : old.isSome = new.isSome)
    (hbuild : image.build old .empty = some root) : image.build new .empty = some (installGuestInit new root) := by
  obtain ⟨extracted, hextract, rfl⟩ := map_eq_some_iff.mp hbuild
  rw [Image.build, hextract, map_some]
  cases old with
  | none =>
    cases new with
    | none => rfl
    | some => cases h
  | some old =>
    cases new with
    | none => cases h
    | some =>
      have hapart : ∀ path ∈ essentialPaths, (extracted.write initPath old).Apart path := by
        intro path hpath location
        rw [leads_write]
        exact htidy extracted hextract path hpath location
      simp only [installGuestInit]
      rw [write_createEssentialFiles hapart, write_write]

theorem view_change (mount : Mount) (box : BoxDir) (changes : List (Path × Option File)) :
    mount.view (mount.change box changes) =
      { mount.view box with files := Overlay.change (mount.view box).files changes } := by
  cases mount with
  | direct => rfl
  | union => simp [Mount.view, Mount.change, merged, merge_record]

theorem view_write (mount : Mount) (box : BoxDir) (path : Path) (file : File) :
    mount.view (mount.write box path file) = (mount.view box).write path file := by
  unfold Mount.write Root.write
  split
  next => rfl
  next => exact view_change ..

/-! ### What a boot does -/

theorem tryRootfsCachePath_cases (config : BoxConfig) (host : Host) (cache : Cache Root) (key : String) :
    tryRootfsCachePath config host cache key = (cache, none) ∧
        (config.cache.enabled = true → host.opens = true → cache.found key = none) ∨
      ∃ cache' cached, tryRootfsCachePath config host cache key = (cache', some cached) ∧
        cache.found key = some cached ∧ ∀ k, cache'.found k = cache.found k := by
  unfold tryRootfsCachePath
  split_ifs with hopen
  · have hsnd := get_snd cache host.now key host.getFault
    have hsame := found_get cache host.now key host.getFault
    rcases hfound : cache.found key with _ | cached
    · refine .inl ⟨?_, fun _ _ => rfl⟩
      rw [hfound] at hsnd
      unfold RootfsCache.get at hsnd ⊢
      split at hsnd
      next => cases hsnd
      next => cases hsnd
      next => rfl
    · exact .inr ⟨_, cached, Prod.ext rfl (hsnd.trans hfound), rfl, hsame⟩
  · refine .inl ⟨rfl, fun henabled hopens => absurd ?_ hopen⟩
    rw [henabled, hopens, Bool.and_self]

variable {config : BoxConfig} {cache : Cache Root} {host : Host}

/-- What is found once a root file system was stored: a copy of that one, or what was there before. -/
theorem found_storeRootfsCache {profile homeDir key}
    (hput : SafePut cache key host.putFault) (hremovals : ∀ key left, host.removals.fault key ≠ some (.dir left))
    (h : (storeRootfsCache profile homeDir config host cache key root).found k = some r) :
    config.cache.enabled = true ∧ k = key ∧ r = copyDirRecursive root ∨ cache.found k = some r := by
  simp only [storeRootfsCache] at h
  split_ifs at h with hopen
  · have henabled : config.cache.enabled = true := (Bool.and_eq_true_iff.mp hopen).1
    have hstored : ∀ cache' result, put copyDirRecursive (rootfsCacheDir homeDir config) cache host.now key root
        config.image host.size host.why host.putFault = (cache', result) → cache'.found k = some r →
          config.cache.enabled = true ∧ k = key ∧ r = copyDirRecursive root ∨ cache.found k = some r := by
      intro cache' result heq hfound
      rcases found_put hput (by rw [heq]; exact hfound) with ⟨hk, hr⟩ | ⟨-, hold⟩
      · exact .inl ⟨henabled, hk, hr⟩
      · exact .inr hold
    split at h
    next heq => exact hstored _ _ heq (found_prune hremovals h)
    next heq => exact hstored _ _ heq h
  · exact .inr h

section Boot

variable {profile : Profile} {sha : List UInt8 → String} {homeDir : String} {provider : Provider} {config : BoxConfig}
  {host : Host} {image : Image} {cache : Cache Root} {box : BoxDir}

/-- What is found after a boot: a copy of what it built, under the key of its reference, or what was there. -/
theorem found_prepareLayout (hput : SafePut cache (cacheKey sha config.image) host.putFault)
    (hremovals : ∀ key left, host.removals.fault key ≠ some (.dir left))
    (h : (prepareLayout profile sha homeDir provider config host image cache box).1.found k = some r) :
    (∃ root, k = cacheKey sha config.image ∧ image.build host.guestInit (box.rootfs.getD .empty) = some root ∧
        r = copyDirRecursive root ∧ config.cache.enabled = true ∧
          (host.opens = true → cache.found (cacheKey sha config.image) = none)) ∨
      cache.found k = some r := by
  rcases tryRootfsCachePath_cases config host cache (cacheKey sha config.image) with
    ⟨htry, hnone⟩ | ⟨cache', cached, htry, -, hsame⟩
  · simp only [prepareLayout, htry] at h
    split at h
    next => exact .inr h
    next root hbuild =>
      rcases found_storeRootfsCache hput hremovals h with ⟨henabled, hk, hcopied⟩ | hold
      · exact .inl ⟨root, hk, hbuild, hcopied, henabled, hnone henabled⟩
      · exact .inr hold
  · simp only [prepareLayout, htry] at h
    exact .inr ((hsame k).symm.trans h)

/-- What a box has of the root file system that its provider makes, with the guest's first process of now. -/
theorem view_prepareCached (provider : Provider) (guestInit : Option File) (box : BoxDir) (cached : Root) :
    (prepareCached provider guestInit box cached).2.view (prepareCached provider guestInit box cached).1 =
      installGuestInit guestInit ((provider.prepare box cached).2.view (provider.prepare box cached).1) := by
  cases guestInit with
  | none => rfl
  | some => exact view_write ..

/-- What a new box boots from: a cached root file system with the guest's first process refreshed, or what was built. -/
theorem view_prepareLayout_new {cache' box'}
    (h : prepareLayout profile sha homeDir provider config host image cache .new = (cache', some (box', mount))) :
    (∃ cached, cache.found (cacheKey sha config.image) = some cached ∧
        mount.view box' = installGuestInit host.guestInit
          ((provider.prepare .new cached).2.view (provider.prepare .new cached).1)) ∨
      image.build host.guestInit .empty = some (mount.view box') := by
  rcases tryRootfsCachePath_cases config host cache (cacheKey sha config.image) with
    ⟨htry, -⟩ | ⟨_, cached, htry, hfound, -⟩
  · right
    simp only [prepareLayout, htry] at h
    split at h
    next => cases h
    next root hbuild =>
      obtain ⟨rfl, rfl⟩ := Prod.mk.inj (some.inj (Prod.mk.inj h).2)
      exact hbuild
  · refine .inl ⟨cached, hfound, ?_⟩
    simp only [prepareLayout, htry] at h
    have hprepared := some.inj (Prod.mk.inj h).2
    have hview := view_prepareCached provider host.guestInit .new cached
    rw [hprepared] at hview
    exact hview

/-- What a new box gets of a cached root file system that a copy keeps. -/
theorem view_prepare_new {cached} (hkept : copyDirRecursive cached = cached) (provider : Provider) :
    (provider.prepare .new cached).2.view (provider.prepare .new cached).1 = cached := by
  cases provider with
  | copy => exact hkept
  | overlay => rfl

end Boot

/-! ### Runs -/

/-- A new box that was booted. -/
structure Booted where
  image : Image
  /-- The guest's first process of then. -/
  guestInit : Option File
  root : Root

/-- The images, caches and boxes of a home directory. -/
structure World where
  images : String → Option Image
  caches : String → Cache Root
  boxes : String → Option BoxDir
  booted : List Booted

/-- What can happen. -/
inductive Act where
  /-- Pulls, builds, tags and removals of images change what the references are. -/
  | resolve (images : String → Option Image)
  /-- A box runs, stops or is removed, and leaves any directory or none. -/
  | leave (id : String) (box : Option BoxDir)
  | boot (id : String) (provider : Provider) (config : BoxConfig) (host : Host)
  | prune (dir : String) (maxEntries : ℕ) (maxBytes : UInt64) (removals : Removals Root)

/-- Boot a box. If that fails, its directory is removed. -/
def World.boot (profile : Profile) (sha : List UInt8 → String) (homeDir : String) (w : World) (id : String)
    (provider : Provider) (config : BoxConfig) (host : Host) : World :=
  match w.images config.image with
  | none => { w with boxes := update w.boxes id none }
  | some image =>
    let dir := rootfsCacheDir homeDir config
    match prepareLayout profile sha homeDir provider config host image (w.caches dir) ((w.boxes id).getD .new) with
    | (cache, none) =>
      { w with caches := update w.caches dir cache, boxes := update w.boxes id none }
    | (cache, some (box, mount)) =>
      { w with
        caches := update w.caches dir cache
        boxes := update w.boxes id (some box)
        booted := if (w.boxes id).isNone then ⟨image, host.guestInit, mount.view box⟩ :: w.booted else w.booted }

/-- The world after something happened. -/
def World.step (profile : Profile) (sha : List UInt8 → String) (homeDir : String) (w : World) : Act → World
  | .resolve images => { w with images := images }
  | .leave id box => { w with boxes := update w.boxes id box }
  | .boot id provider config host => w.boot profile sha homeDir id provider config host
  | .prune dir maxEntries maxBytes removals =>
    { w with caches := update w.caches dir (prune profile dir (w.caches dir) maxEntries maxBytes removals).1 }

/-- The runs from a home directory without caches and boxes in which everything that happens meets a condition. -/
inductive Run (profile : Profile) (sha : List UInt8 → String) (homeDir : String) (ok : World → Act → Prop) :
    World → Prop where
  | start (images : String → Option Image) :
      Run profile sha homeDir ok ⟨images, fun _ => .empty, fun _ => none, []⟩
  | act {w} (act : Act) (before : Run profile sha homeDir ok w) (meets : ok w act) :
      Run profile sha homeDir ok (w.step profile sha homeDir act)

/-- The condition on a boot: its reference is in use, the guest's first process is found at every boot or never, no link
of the image leads elsewhere to it, a copy keeps the modes of what is built, a box with a `rootfs` directory does not
fill the cache, and directories are put in the cache and removed from it as a whole. -/
structure CarefulBoot (sha : List UInt8 → String) (homeDir : String) (refs : Set String) (finds : Bool) (w : World)
    (id : String) (config : BoxConfig) (host : Host) : Prop where
  used : config.image ∈ refs
  /-- The guest's first process is found, or it is not. -/
  finds : host.guestInit.isSome = finds
  tidy : ∀ image, w.images config.image = some image → image.Tidy
  kept : ∀ image root, w.images config.image = some image → image.build host.guestInit .empty = some root →
    copyDirRecursive root = root
  clean : config.cache.enabled = true → ((w.boxes id).getD .new).rootfs ≠ none →
    host.opens = true ∧ (w.caches (rootfsCacheDir homeDir config)).found (cacheKey sha config.image) ≠ none
  puts : SafePut (w.caches (rootfsCacheDir homeDir config)) (cacheKey sha config.image) host.putFault
  /-- Root file systems are removed as a whole. -/
  removes : ∀ key left, host.removals.fault key ≠ some (.dir left)

/-- The condition on what happens: a reference gets another image only while no root file system is cached for it. -/
def Careful (sha : List UInt8 → String) (homeDir : String) (refs : Set String) (finds : Bool) (w : World) : Act → Prop
  | .resolve images =>
    ∀ ref ∈ refs, images ref ≠ w.images ref → ∀ dir, (w.caches dir).found (cacheKey sha ref) = none
  | .leave _ _ => True
  | .boot id _ config host => CarefulBoot sha homeDir refs finds w id config host
  | .prune _ _ _ removals => ∀ key left, removals.fault key ≠ some (.dir left)

/-- A root file system is what is built from the image of a reference, and a copy keeps it. -/
def Built (finds : Bool) (images : String → Option Image) (ref : String) (root : Root) : Prop :=
  ∃ image guestInit, images ref = some image ∧ image.Tidy ∧ guestInit.isSome = finds ∧
    image.build guestInit .empty = some root ∧ copyDirRecursive root = root

/-- What is cached for a reference is what is built from its image, and so is what the new boxes booted from. -/
structure Fresh (sha : List UInt8 → String) (refs : Set String) (finds : Bool) (w : World) : Prop where
  cached : ∀ dir, ∀ ref ∈ refs, ∀ root, (w.caches dir).found (cacheKey sha ref) = some root →
    Built finds w.images ref root
  booted : ∀ b ∈ w.booted, b.image.build b.guestInit .empty = some b.root

section Runs

variable {profile : Profile} {sha : List UInt8 → String} {homeDir : String} {refs : Set String} {finds : Bool}
  {w : World} {provider : Provider}

variable (hfresh : Fresh sha refs finds w)

include hfresh

theorem Fresh.update {dir}
    (hcache : ∀ ref ∈ refs, ∀ root, cache.found (cacheKey sha ref) = some root →
      Built finds w.images ref root ∨ (w.caches dir).found (cacheKey sha ref) = some root)
    (boxes : String → Option BoxDir) {booted}
    (hbooted : ∀ b ∈ booted, b.image.build b.guestInit .empty = some b.root) :
    Fresh sha refs finds ⟨w.images, update w.caches dir cache, boxes, booted⟩ := by
  refine ⟨?_, hbooted⟩
  intro dir' ref href root hfound
  change (Function.update w.caches dir cache dir').found (cacheKey sha ref) = some root at hfound
  by_cases hdir : dir' = dir
  · subst hdir
    rw [update_self] at hfound
    exact (hcache ref href root hfound).elim id (hfresh.cached dir' ref href root)
  · rw [update_of_ne hdir] at hfound
    exact hfresh.cached dir' ref href root hfound

omit hfresh in
theorem CarefulBoot.cached (hcareful : CarefulBoot sha homeDir refs finds w id config host)
    (hkeys : Set.InjOn (cacheKey sha) refs) (himage : w.images config.image = some image) {ref}
    (href : ref ∈ refs)
    (hfound : (prepareLayout profile sha homeDir provider config host image
      (w.caches (rootfsCacheDir homeDir config)) ((w.boxes id).getD .new)).1.found (cacheKey sha ref) = some root) :
    Built finds w.images ref root ∨
      (w.caches (rootfsCacheDir homeDir config)).found (cacheKey sha ref) = some root := by
  rcases found_prepareLayout hcareful.puts hcareful.removes hfound with
    ⟨built, hkey, hbuild, rfl, henabled, hnone⟩ | hold
  · left
    obtain rfl := hkeys href hcareful.used hkey
    have hclean : ((w.boxes id).getD .new).rootfs = none := by
      by_contra hrootfs
      obtain ⟨hopens, hsome⟩ := hcareful.clean henabled hrootfs
      exact hsome (hnone hopens)
    rw [hclean] at hbuild
    have hkept := hcareful.kept image built himage hbuild
    rw [hkept]
    exact ⟨image, host.guestInit, himage, hcareful.tidy image himage, hcareful.finds, hbuild, hkept⟩
  · exact .inr hold

theorem Fresh.view
    (hcareful : CarefulBoot sha homeDir refs finds w id config host) (himage : w.images config.image = some image)
    {box}
    (hboot : prepareLayout profile sha homeDir provider config host image
      (w.caches (rootfsCacheDir homeDir config)) .new = (cache, some (box, mount))) :
    image.build host.guestInit .empty = some (mount.view box) := by
  rcases view_prepareLayout_new hboot with ⟨cached, hfound, hview⟩ | hbuild
  · obtain ⟨_, _, himage', htidy, hfinds, hbuild, hkept⟩ := hfresh.cached _ _ hcareful.used cached hfound
    obtain rfl := some.inj (himage.symm.trans himage')
    rw [hview, view_prepare_new hkept]
    exact build_refresh htidy (hfinds.trans hcareful.finds.symm) hbuild
  · exact hbuild

theorem Fresh.boot (hkeys : Set.InjOn (cacheKey sha) refs)
    (hcareful : CarefulBoot sha homeDir refs finds w id config host) (provider) :
    Fresh sha refs finds (w.boot profile sha homeDir id provider config host) := by
  unfold World.boot
  rcases himage : w.images config.image with _ | image
  · exact ⟨hfresh.cached, hfresh.booted⟩
  · have hcache : ∀ ref ∈ refs, ∀ root, (prepareLayout profile sha homeDir provider config host image
        (w.caches (rootfsCacheDir homeDir config)) ((w.boxes id).getD .new)).1.found (cacheKey sha ref) = some root →
          Built finds w.images ref root ∨
            (w.caches (rootfsCacheDir homeDir config)).found (cacheKey sha ref) = some root :=
      fun _ href _ hfound => hcareful.cached hkeys himage href hfound
    rcases hboot : prepareLayout profile sha homeDir provider config host image
      (w.caches (rootfsCacheDir homeDir config)) ((w.boxes id).getD .new) with ⟨cache, _ | ⟨box, mount⟩⟩
    · rw [hboot] at hcache
      simp only [hboot]
      exact hfresh.update hcache _ hfresh.booted
    · rw [hboot] at hcache
      simp only [hboot]
      refine hfresh.update hcache _ ?_
      split_ifs with hnew
      · rw [isNone_iff_eq_none.mp hnew] at hboot
        rintro b (_ | ⟨_, hb⟩)
        · exact hfresh.view hcareful himage hboot
        · exact hfresh.booted b hb
      · exact hfresh.booted

theorem Fresh.step (hkeys : Set.InjOn (cacheKey sha) refs) {act}
    (hcareful : Careful sha homeDir refs finds w act) : Fresh sha refs finds (w.step profile sha homeDir act) := by
  cases act with
  | resolve images =>
    refine ⟨?_, hfresh.booted⟩
    intro dir ref href root hfound
    by_cases hsame : images ref = w.images ref
    · obtain ⟨image, guestInit, himage, hrest⟩ := hfresh.cached dir ref href root hfound
      exact ⟨image, guestInit, hsame.trans himage, hrest⟩
    · cases (hcareful ref href hsame dir).symm.trans hfound
  | leave => exact ⟨hfresh.cached, hfresh.booted⟩
  | boot _ provider => exact hfresh.boot hkeys hcareful provider
  | prune =>
    exact hfresh.update (fun _ _ _ hfound => .inr (found_prune hcareful hfound)) _ hfresh.booted

omit hfresh

end Runs

/-- An image with one file, which all may read. -/
def oneFile (path : Path) (file : File) : Image :=
  ⟨fun root => some { root with
    files := update root.files path (some file)
    modes := update root.modes path (some 0o644) }⟩

/-- A host on which nothing fails and the guest's first process is found. -/
def plainHost : Host where
  now := 0
  guestInit := some [7]
  opens := true
  opensToStore := true
  getFault := none
  putFault := none
  why := ""
  size := 10
  removals := ⟨fun _ => none, ""⟩

/-- The boot of a box of the reference `app`. -/
def bootApp (id : String) (provider : Provider) : Act := .boot id provider { image := "app" } plainHost

/-- The images of `app`: one, or another. -/
def appImage (version : UInt8) (reference : String) : Option Image :=
  if reference = "app" then some (oneFile ["version"] [version]) else none

/-- The world after some things happened in a home directory. -/
def after (images : String → Option Image) (acts : List Act) : World :=
  acts.foldl (fun w act => w.step .release hexEncode "/home" act) ⟨images, fun _ => .empty, fun _ => none, []⟩

theorem run_after (images : String → Option Image) (acts : List Act) :
    Run .release hexEncode "/home" (fun _ _ => True) (after images acts) := by
  induction acts using List.reverseRecOn with
  | nil => exact .start images
  | append_singleton acts act ih =>
    have hlast : after images (acts ++ [act]) = (after images acts).step .release hexEncode "/home" act := by
      simp [after]
    rw [hlast]
    exact .act act ih trivial

/-- Whether a box was booted from something at a path that is not what is built now. -/
def wrongAt (path : Path) (w : World) : Bool :=
  w.booted.any fun b =>
    (b.image.build b.guestInit .empty).map (fun root => (root.files path, root.modes path)) ≠
      some (b.root.files path, b.root.modes path)

theorem wrong_of_wrongAt {w} (path) (h : wrongAt path w = true) :
    ∃ b ∈ w.booted, b.image.build b.guestInit .empty ≠ some b.root := by
  obtain ⟨b, hb, hne⟩ := any_eq_true.mp h
  refine ⟨b, hb, fun heq => of_decide_eq_true hne ?_⟩
  rw [heq]
  rfl

/-- What a box leaves that was booted from `app` and wrote a file of its own. -/
def ownFile : BoxDir :=
  ⟨some ⟨Overlay.change Root.empty.files [(["version"], some [1]), (["own"], some [9])], some,
    update Root.empty.modes ["version"] (some 0o644)⟩, BoxDir.new.upper⟩

/-- A box of `app` is booted and writes a file; the cache is pruned; the box is booted once more and a second box after
it: that one gets the file of the first. -/
theorem polluted_rootfs : ∃ w, Run .release hexEncode "/home" (fun _ _ => True) w ∧
    ∃ b ∈ w.booted, b.image.build b.guestInit .empty ≠ some b.root :=
  ⟨after (appImage 1) [bootApp "x" .copy, .leave "x" (some ownFile),
      .prune "/home/cache/rootfs" 0 0 ⟨fun _ => none, ""⟩, bootApp "x" .copy, bootApp "y" .copy],
    run_after _ _, wrong_of_wrongAt ["own"] (by decide +kernel)⟩

/-- An image with a directory that all may write to. -/
def sharedTmp (reference : String) : Option Image :=
  if reference = "app" then
    some ⟨fun root => some { root with modes := update root.modes ["tmp"] (some 0o1777) }⟩
  else none

/-- Two boxes of an image with a `tmp` that all may write to: that of the second is made anew when it is copied. -/
theorem lost_mode : ∃ w, Run .release hexEncode "/home" (fun _ _ => True) w ∧
    ∃ b ∈ w.booted, b.image.build b.guestInit .empty ≠ some b.root :=
  ⟨after sharedTmp [bootApp "x" .overlay, bootApp "y" .overlay], run_after _ _,
    wrong_of_wrongAt ["tmp"] (by decide +kernel)⟩

theorem copyDirRecursive_eq
    (h : ∀ path mode, root.modes path = some mode → copiedMode (root.files path).isSome mode = mode) :
    copyDirRecursive root = root := by
  have hmodes : (copyDirRecursive root).modes = root.modes := by
    funext path
    rcases hmode : root.modes path with _ | mode
    · simp [copyDirRecursive, hmode]
    · simp [copyDirRecursive, hmode, h path mode hmode]
  exact congrArg (Root.mk root.files root.leads) hmodes

theorem carefulBoot_app (version : UInt8) {w} (hnew : w.boxes id = none) (himages : w.images = appImage version) :
    CarefulBoot hexEncode "/home" {"app"} true w id { image := "app" } plainHost where
  used := rfl
  finds := rfl
  tidy := by
    intro image himage root hextract path hpath location hpathLeads hinit
    rw [himages] at himage
    obtain rfl := some.inj himage
    obtain rfl := some.inj hextract
    -- there are no links, so that the paths would be the same
    obtain rfl := (some.inj hpathLeads).trans (some.inj hinit).symm
    exact absurd hpath (by decide)
  kept := by
    intro image root himage hbuild
    rw [himages] at himage
    obtain rfl := some.inj himage
    obtain rfl := some.inj hbuild
    refine copyDirRecursive_eq fun path mode hmode => ?_
    by_cases hpath : path = ["version"]
    · obtain rfl := hpath
      obtain rfl : 0o644 = mode := some.inj hmode
      rfl
    · have hnone : (none : Option ℕ) = some mode := (update_of_ne hpath ..).symm.trans hmode
      cases hnone
  clean := by
    intro _ hrootfs
    rw [hnew] at hrootfs
    exact absurd rfl hrootfs
  puts := trivial
  removes := fun _ _ h => nomatch h

end A3sBox.Layout
