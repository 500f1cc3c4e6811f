import A3sBox.Cli.Run
import A3sBox.Library.PosixOps
import A3sBox.Library.Processes

/-!
# The volume store

`runtime/src/volume/store.rs` and `core/src/volume.rs`: all volumes are in one JSON file, and the data of each is in a
directory whose path is that of all volumes joined with the name.

## The model

`Host` is what the host does in one call: it may fail to read or to replace the file, refuse to make a directory, and
keep some of what is to be removed. That the directory of all volumes is there, and no link, is a condition.

`volumes_contained_iff`: for which names only what is strictly inside the directory changes, and no two volumes share
or nest their data. `boxes_removed` is a name with which all boxes are removed.
-/

namespace A3sBox.Volume

open PosixFs Text Boxes Processes List AList

/-! ### Volumes -/

/-- A volume. -/
structure VolumeConfig where
  name : String
  driver : String := "local"
  mountPoint : String := ""
  labels : TextMap := ∅
  inUseBy : List String := []
  createdAt : String := ""

/-- A box uses the volume. -/
def VolumeConfig.attach (config : VolumeConfig) (boxId : String) : VolumeConfig :=
  if boxId ∈ config.inUseBy then config else { config with inUseBy := config.inUseBy ++ [boxId] }

/-- Some box uses it. -/
def VolumeConfig.isInUse (config : VolumeConfig) : Bool := !config.inUseBy.isEmpty

/-- The volumes by name. -/
abbrev Volumes := AList fun _ : String => VolumeConfig

/-- Where volumes are stored. -/
structure VolumeStore where
  path : String
  parent : String
  tmpPath : String
  volumesDir : String
  base : Location
  base_ne : base ≠ []
  rooted : isAbsolute (utf8 volumesDir) = true
  located : components (utf8 volumesDir) = base.map .name

/-- Why the file cannot be replaced. -/
inductive SaveFault where
  | createDir (e : String)
  | write (e : String)
  | rename (e : String)
  deriving DecidableEq, Repr

variable (store : VolumeStore)

/-- The error of a save. -/
def SaveFault.error : SaveFault → BoxError
  | .createDir e => .configError s!"failed to create directory {store.parent}: {e}"
  | .write e => .configError s!"failed to write tmp file {store.tmpPath}: {e}"
  | .rename e => .configError s!"failed to rename {store.tmpPath} → {store.path}: {e}"

/-- What the host does in one call. -/
structure Host where
  readError : Option String := none
  saveFault : Option SaveFault := none
  refuses : Location → Bool := fun _ => false
  mkdirError : String := "Permission denied (os error 13)"
  keeps : Location → Bool := fun _ => false

/-- The file and the file system. -/
structure World where
  file : Option (Content Volumes)
  fs : Fs Unit Unit Unit

/-- The volumes in the file. -/
def load (readError : Option String) : Option (Content Volumes) → Except BoxError Volumes
  | none => .ok ∅
  | some content =>
    match readError, content with
    | some e, _ => .error (.configError s!"failed to read volumes file {store.path}: {e}")
    | none, .broken why => .error (.serializationError s!"failed to parse volumes file: {why}")
    | none, .whole volumes => .ok volumes

/-- The directory of a volume. -/
def VolumeStore.volumeDir (name : String) : String := joinPath store.volumesDir name

/-- What is left of the volumes when one of them is removed. -/
def takeOut (volumes : Volumes) (name : String) (force : Bool) : Except BoxError (VolumeConfig × Volumes) :=
  match volumes.lookup name with
  | none => .error (.configError s!"volume '{name}' not found")
  | some config =>
    if config.isInUse && !force then
      let users := String.ofList (showNat config.inUseBy.length)
      .error (.configError s!"volume '{name}' is in use by {users} box(es); use --force to remove")
    else .ok (config, volumes.erase name)

/-- Create a volume. -/
def create (host : Host) (world : World) (config : VolumeConfig) : Except BoxError VolumeConfig × World :=
  match load store host.readError world.file with
  | .error e => (.error e, world)
  | .ok volumes =>
    if config.name ∈ volumes then (.error (.configError s!"volume '{config.name}' already exists"), world)
    else
      let volDir := store.volumeDir config.name
      let failed := BoxError.configError s!"failed to create volume directory {volDir}: {host.mkdirError}"
      if 0 ∈ utf8 volDir then (.error failed, world)
      else
        let (fs, made) := createDirAll host.refuses () world.fs (components (utf8 volDir)).reverse
        let config := { config with mountPoint := volDir }
        match made, host.saveFault with
        | false, _ => (.error failed, { world with fs })
        | true, some fault => (.error (fault.error store), { world with fs })
        | true, none => (.ok config, ⟨some (.whole (volumes.insert config.name config)), fs⟩)

/-- Remove the data of a volume. -/
def removeData (host : Host) (fs : Fs Unit Unit Unit) (name : String) : Fs Unit Unit Unit :=
  let text := utf8 (store.volumeDir name)
  if 0 ∈ text ∨ (resolve fs true [] (components text)).isNone then fs else fs.removeSome host.keeps (doomedBy fs text)

/-- Remove a volume. -/
def remove (host : Host) (world : World) (name : String) (force : Bool) : Except BoxError VolumeConfig × World :=
  match (load store host.readError world.file).bind fun volumes => takeOut volumes name force with
  | .error e => (.error e, world)
  | .ok (config, volumes) =>
    match host.saveFault with
    | some fault => (.error (fault.error store), world)
    | none => (.ok config, ⟨some (.whole volumes), removeData store host world.fs name⟩)

/-- The volumes that no box uses. -/
def unused (volumes : Volumes) : List String :=
  (volumes.entries.filter fun volume => !volume.2.isInUse).map Sigma.fst

/-- Remove all volumes that no box uses; each call finds a host of its own. -/
def prune (hosts : ℕ → Host) (world : World) : Except BoxError (List String) × World :=
  match load store (hosts 0).readError world.file with
  | .error e => (.error e, world)
  | .ok volumes =>
    let pruned := unused volumes
    (.ok pruned, pruned.zipIdx.foldl (fun world name => (remove store (hosts (name.2 + 1)) world name.1 false).2) world)

/-! ### What the operations change -/

variable {store : VolumeStore}

/-- The path of a name is the directory of all volumes and one more name. -/
def VolumeStore.entry? (store : VolumeStore) (name : String) : Option Name :=
  childName? store.base (utf8 (store.volumeDir name))

/-- Where the directory is. -/
def VolumeStore.dataDir (store : VolumeStore) (name : String) : Location :=
  lexical [] (components (utf8 (store.volumeDir name)))

variable {host : Host} {world : World} {a : Name} {name : String}

theorem create_inside {config} (h : store.entry? config.name = some a) (hreal : world.fs.RealDir store.base) :
    ChangedInside store.base world.fs (create store host world config).2.fs := by
  have hmade := createDirAll_inside h hreal host.refuses ()
  unfold create
  split
  · exact changedInside_refl _ _
  · dsimp only
    split_ifs
    · exact changedInside_refl _ _
    · exact changedInside_refl _ _
    · split <;> exact hmade

theorem remove_inside {force} (h : store.entry? name = some a) (hreal : world.fs.RealDir store.base) :
    ChangedInside store.base world.fs (remove store host world name force).2.fs := by
  unfold remove
  split
  · exact changedInside_refl _ _
  · split
    · exact changedInside_refl _ _
    · dsimp only [removeData]
      split_ifs
      · exact changedInside_refl _ _
      · exact doomedBy_inside h hreal host.keeps

theorem removes_inside {names : List (String × ℕ)} (h : ∀ name ∈ names, ∃ a, store.entry? name.1 = some a)
    (hosts : ℕ → Host) (hreal : world.fs.RealDir store.base) :
    ChangedInside store.base world.fs
      (names.foldl (fun world name => (remove store (hosts (name.2 + 1)) world name.1 false).2) world).fs := by
  induction names generalizing world with
  | nil => exact changedInside_refl _ _
  | cons name _ ih =>
    obtain ⟨⟨_, ha⟩, hrest⟩ := forall_mem_cons.mp h
    have hstep : ChangedInside store.base world.fs (remove store (hosts (name.2 + 1)) world name.1 false).2.fs :=
      remove_inside ha hreal
    exact changedInside_trans hstep (ih hrest (realDir_of_changedInside hreal hstep))

/-- Only these volumes are in the file. -/
def World.Stores (world : World) (names : Set String) : Prop :=
  ∀ volumes, world.file = some (.whole volumes) → ∀ name ∈ volumes, name ∈ names

variable {volumes : Volumes}

theorem load_ok {readError file} (h : load store readError file = .ok volumes) :
    file = none ∧ volumes = ∅ ∨ file = some (.whole volumes) ∧ readError = none := by
  unfold load at h
  split at h
  · cases h
    exact .inl ⟨rfl, rfl⟩
  · split at h
    · cases h
    · cases h
    · cases h
      exact .inr ⟨rfl, rfl⟩

theorem mem_of_mem_unused (h : name ∈ unused volumes) : name ∈ volumes := by
  obtain ⟨_, hvolume, rfl⟩ := mem_map.mp h
  exact mem_keys.mpr (mem_map_of_mem (mem_of_mem_filter hvolume))

theorem prune_inside {names : Set String} (h : ∀ name ∈ names, ∃ a, store.entry? name = some a) (hosts : ℕ → Host)
    (hreal : world.fs.RealDir store.base) (hstores : world.Stores names) :
    ChangedInside store.base world.fs (prune store hosts world).2.fs := by
  unfold prune
  split
  · exact changedInside_refl _ _
  next volumes hload =>
    refine removes_inside (fun name hname => h _ ?_) hosts hreal
    have hmem := mem_of_mem_unused (fst_mem_of_mem_zipIdx hname)
    rcases load_ok hload with ⟨-, rfl⟩ | ⟨hfile, -⟩
    · exact absurd hmem (notMem_empty _)
    · exact hstores volumes hfile _ hmem

/-! ### Which names are contained -/

/-- Volumes with these names are kept apart, and inside the directory of all volumes. -/
structure Contained (store : VolumeStore) (names : Set String) : Prop where
  inside : ∀ name ∈ names, store.base <+: store.dataDir name ∧ store.dataDir name ≠ store.base
  /-- Creating one changes only what is strictly inside. -/
  create : ∀ host world config, config.name ∈ names → world.fs.RealDir store.base →
    ChangedInside store.base world.fs (create store host world config).2.fs
  /-- Removing one changes only what is strictly inside. -/
  remove : ∀ host world name force, name ∈ names → world.fs.RealDir store.base →
    ChangedInside store.base world.fs (remove store host world name force).2.fs
  /-- Pruning changes only what is strictly inside, if no others are stored. -/
  prune : ∀ hosts world, world.Stores names → world.fs.RealDir store.base →
    ChangedInside store.base world.fs (prune store hosts world).2.fs
  apart : ∀ name ∈ names, ∀ other ∈ names, name ≠ other → ¬ store.dataDir name <+: store.dataDir other

/-- A name can be created. -/
def Accepted (store : VolumeStore) (name : String) : Prop :=
  ∃ host world config made, config.name = name ∧ (create store host world config).1 = .ok made

theorem dataDir_of_entry (h : store.entry? name = some a) : store.dataDir name = store.base ++ [a] := by
  obtain ⟨-, -, hlex, -⟩ := leave_eq_some (F := Unit) (D := Unit) (L := Unit) nil_prefix (childName?_eq_some.mp h).1
  exact hlex

theorem not_mem_of_accepted (h : Accepted store name) : 0 ∉ utf8 (store.volumeDir name) := by
  obtain ⟨_, _, _, _, rfl, hmade⟩ := h
  intro hzero
  unfold create at hmade
  split at hmade
  · cases hmade
  · dsimp only at hmade
    split_ifs at hmade

/-- A store with one volume that no box uses. -/
def oneVolume (name : String) (fs : Fs Unit Unit Unit) : World := ⟨some (.whole (singleton name { name })), fs⟩

theorem remove_oneVolume (name : String) (fs : Fs Unit Unit Unit) :
    (remove store {} (oneVolume name fs) name false).2.fs = removeData store {} fs name := by
  have htake : takeOut (singleton name { name }) name false =
      .ok ({ name }, (singleton name { name }).erase name) := by
    have hlookup : (singleton (β := fun _ => VolumeConfig) name { name }).lookup name = some { name } :=
      mem_lookup_iff.mpr (mem_singleton_self _)
    simp [takeOut, hlookup, VolumeConfig.isInUse]
  simp only [remove, oneVolume, load, Except.bind, htake]

/-- A name of which the path is not one more name can be led elsewhere. -/
theorem entry_of_remove (haccepted : Accepted store name)
    (hinside : store.base <+: store.dataDir name ∧ store.dataDir name ≠ store.base)
    (hremove : ∀ host world force, world.fs.RealDir store.base →
      ChangedInside store.base world.fs (remove store host world name force).2.fs) :
    ∃ a, store.entry? name = some a := by
  cases hentry : store.entry? name with
  | some a => exact ⟨a, rfl⟩
  | none =>
    obtain ⟨fs, hreal, hexists, _, q, hdoomed, hcovers, hthere, hout⟩ :=
      exists_redirected (F := Unit) store.base_ne hinside hentry () ()
    have hchanged := hremove {} (oneVolume name fs) false hreal
    rw [remove_oneVolume] at hchanged
    have hnot : ¬ (0 ∈ utf8 (store.volumeDir name) ∨
        (resolve fs true [] (components (utf8 (store.volumeDir name)))).isNone = true) := by
      rintro (hzero | hnone)
      · exact not_mem_of_accepted haccepted hzero
      · rw [Option.isNone_iff_eq_none] at hnone
        rw [hnone] at hexists
        cases hexists
    refine absurd (hchanged q ?_).1 hout
    have hgone : removeData store {} fs name q = none := by
      simp only [removeData, if_neg hnot, hdoomed, Fs.removeSome, hcovers]
      rfl
    rw [hgone]
    exact hthere.symm

/-- **Which names are contained**: those whose path is the directory of all volumes with one more name, another for
each. -/
theorem volumes_contained_iff (store : VolumeStore) (names : Set String) (h : ∀ name ∈ names, Accepted store name) :
    Contained store names ↔
      ∃ entry : String → Name, Set.InjOn entry names ∧ ∀ name ∈ names, store.entry? name = some (entry name) := by
  constructor
  · intro hcontained
    have hentry : ∀ name ∈ names, ∃ a, store.entry? name = some a := fun name hname =>
      entry_of_remove (h name hname) (hcontained.inside name hname) fun host world force =>
        hcontained.remove host world name force hname
    refine ⟨fun name => (store.entry? name).getD [], ?_, ?_⟩
    · intro name hname other hother heq
      by_contra hne
      obtain ⟨a, ha⟩ := hentry name hname
      obtain ⟨_, hb⟩ := hentry other hother
      simp only [ha, hb, Option.getD_some] at heq
      refine hcontained.apart name hname other hother hne ?_
      rw [dataDir_of_entry ha, dataDir_of_entry hb, heq]
    · intro name hname
      obtain ⟨a, ha⟩ := hentry name hname
      simp [ha]
  · rintro ⟨_, hinj, hentry⟩
    have hsome : ∀ name ∈ names, ∃ a, store.entry? name = some a := fun name hname => ⟨_, hentry name hname⟩
    refine ⟨fun name hname => ?_, ?_, ?_, ?_, ?_⟩
    · rw [dataDir_of_entry (hentry name hname)]
      exact ne_base_of_append _ _ _ prefix_rfl
    · exact fun host world config hname hreal => create_inside (hentry _ hname) hreal
    · exact fun host world name force hname hreal => remove_inside (hentry _ hname) hreal
    · exact fun hosts world hstores hreal => prune_inside hsome hosts hreal hstores
    · intro name hname other hother hne hpre
      rw [dataDir_of_entry (hentry name hname), dataDir_of_entry (hentry other hother)] at hpre
      have heq := hpre.eq_of_length (by simp)
      exact hne (hinj hname hother (append_cancel_left heq |> singleton_inj.mp))

theorem utf8_ofList_append (a b : List Char) :
    utf8 (String.ofList (a ++ b)) = utf8 (String.ofList a) ++ utf8 (String.ofList b) := by
  rw [String.ofList_append, utf8_append]

/-- A name without a slash, which is neither empty nor `.` nor `..`, is the name of its directory. -/
theorem entry_of_validName (h : ValidName (utf8 name)) : store.entry? name = some (utf8 name) := by
  have hslash : utf8 (String.ofList ['/']) = [slash] := by decide
  have hrelative : name.toList.head? ≠ some '/' := by
    intro hhead
    obtain ⟨rest, hrest⟩ := List.head?_eq_some_iff.mp hhead
    have hname : utf8 name = slash :: utf8 (String.ofList rest) := by
      rw [← String.ofList_toList (s := name), hrest, ← singleton_append, utf8_ofList_append]
      rfl
    exact h.2.2.2 (hname ▸ mem_cons_self)
  unfold VolumeStore.entry? VolumeStore.volumeDir joinPath
  rw [if_neg hrelative]
  split_ifs with hend
  · rcases hend with hempty | hlast
    · have hrooted := store.rooted
      rw [hempty] at hrooted
      exact absurd hrooted (by decide)
    · obtain ⟨front, hfront⟩ := List.getLast?_eq_some_iff.mp hlast
      have hdir : utf8 store.volumesDir = utf8 (String.ofList front) ++ [slash] := by
        rw [← String.ofList_toList (s := store.volumesDir), hfront, utf8_ofList_append, hslash]
      have hlocated := store.located
      rw [hdir, components_append_slash, show components [] = [] from rfl, append_nil] at hlocated
      rw [utf8_append, hdir, append_assoc]
      exact childName?_of_validName hlocated h
  · have htext : utf8 (store.volumesDir ++ "/" ++ name) = utf8 store.volumesDir ++ slash :: utf8 name := by
      rw [utf8_append, utf8_append, append_assoc]
      rfl
    rw [htext]
    exact childName?_of_validName store.located h

/-- The store in `/root/.a3s`. -/
def rootStore : VolumeStore where
  path := "/root/.a3s/volumes.json"
  parent := "/root/.a3s"
  tmpPath := "/root/.a3s/volumes.json.tmp"
  volumesDir := "/root/.a3s/volumes"
  base := [utf8 "root", utf8 ".a3s", utf8 "volumes"]
  base_ne := List.cons_ne_nil _ _
  rooted := by decide +kernel
  located := by decide +kernel

/-- A box. -/
def boxPlace : Location := [utf8 "root", utf8 ".a3s", utf8 "boxes", utf8 "b1"]

/-- No volumes yet; there is a box beside them. -/
def firstWorld : World where
  file := none
  fs q := if q <+: rootStore.base ∨ q <+: boxPlace then some (.dir ()) else none

theorem twoVolumes_contained : Contained rootStore {"data", "logs"} := by
  have haccepted : ∀ name ∈ ["data", "logs"], (create rootStore {} firstWorld { name }).1.isOk = true := by
    decide +kernel
  have hvalid : ∀ name ∈ ["data", "logs"], ValidName (utf8 name) := by decide +kernel
  have hlist : ∀ name ∈ ({"data", "logs"} : Set String), name ∈ ["data", "logs"] := by simp
  refine (volumes_contained_iff rootStore {"data", "logs"} fun name hname => ?_).mpr
    ⟨utf8, fun _ _ _ _ heq => utf8_injective heq, fun name hname => entry_of_validName (hvalid name (hlist name hname))⟩
  obtain ⟨made, hmade⟩ := except_of_isOk (haccepted name (hlist name hname))
  exact ⟨{}, firstWorld, { name }, made, rfl, hmade⟩

/-- The name of a volume in `-v x/../../boxes:/data`. -/
def boxesName : String := "x/../../boxes"

/-- The world after such a volume was created and removed. -/
def boxesGone : World :=
  (remove rootStore {} (create rootStore {} firstWorld { name := boxesName }).2 boxesName false).2

/-- A volume of that name is created and removed, and all boxes with it. The data of `a/b` is in that of `a`. -/
theorem boxes_removed :
    (resolveNamedVolume (fun _ => .ok "") "x/../../boxes:/data").map Prod.snd = .ok (some boxesName) ∧
    (create rootStore {} firstWorld { name := boxesName }).1.isOk = true ∧
    (remove rootStore {} (create rootStore {} firstWorld { name := boxesName }).2 boxesName false).1.isOk = true ∧
    firstWorld.fs boxPlace = some (.dir ()) ∧ boxesGone.fs boxPlace = none ∧ ¬ rootStore.base <+: boxPlace ∧
    ¬ Contained rootStore {boxesName} ∧ rootStore.dataDir "a" <+: rootStore.dataDir "a/b" := by
  refine ⟨by decide +kernel, by decide +kernel, by decide +kernel, by decide +kernel, by decide +kernel,
    by decide +kernel, fun h => ?_, by decide +kernel⟩
  exact absurd (h.inside boxesName rfl).1 (by decide +kernel)

end A3sBox.Volume
