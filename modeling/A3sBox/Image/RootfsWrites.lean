import A3sBox.Image.Layers
import A3sBox.Image.Rootfs
import A3sBox.Library.PosixFiles

/-!
# Where a root file system is written

`runtime/src/oci/rootfs.rs` and `boot` of `runtime/src/vm/mod.rs`: the runtime makes directories below a root file
system, extracts layers, installs `sbin/init` and writes files in `etc`. Each operation is given a path, and the host
follows the links that the image has left on the way.

## The model

`Disk` is the file system of the host with the locations that were touched; the host may refuse any of them. The root
file system is given by its physical location, and may be missing at first. `tar` is a parameter, as in
`Image.Layers`. Each function of the source is a list of `Step`s, which are run until one fails.

`writes_confined_iff`: when nothing outside is touched. `hosts_through_link` is an image with a link at `etc/hosts`.
-/

namespace A3sBox.Rootfs

open PosixFs Image Text List

/-! ### The disk -/

/-- A file. -/
structure FileData where
  bytes : List UInt8
  mode : ℕ
  deriving DecidableEq, Repr

variable {E D L : Type}

/-- The file system of the host, and the locations that were touched. -/
structure Disk (D L : Type) where
  fs : Fs FileData D L
  /-- What was created, overwritten, removed or had its mode changed. -/
  touched : Set Location

/-- What the host does. -/
structure Host (E D L : Type) where
  refuses : Location → Bool
  why : String
  fresh : D
  tar : Tar E FileData D L

variable (disk : Disk D L)

/-- Create or remove something. -/
def Disk.change (fs : Fs FileData D L) : Disk D L := ⟨fs, disk.touched ∪ {q | fs q ≠ disk.fs q}⟩

/-- Create or overwrite what is at a location. -/
def Disk.touch (l : Location) (fs : Fs FileData D L) : Disk D L := ⟨fs, insert l disk.touched⟩

/-! ### Operations on paths

Paths are names below the root file system `target`. Each operation says whether it succeeded. -/

variable (host : Host E D L) (target : Location) (names : List Name)

/-- `create_dir_all`. -/
def createDirAllAt (disk : Disk D L) : Disk D L × Bool :=
  let made := makeDirs host.refuses host.fresh disk.fs target names
  (disk.change made.1, made.2)

/-- The file with other content. -/
def Fs.setFile (fs : Fs FileData D L) (l : Location) (update : Option FileData → FileData) : Fs FileData D L :=
  match fs l with
  | some (.file data) => fs.put l (.file (update (some data)))
  | _ => fs.put l (.file (update none))

/-- Open a path, and write the file. -/
def openAndWrite (update : Option FileData → FileData) (disk : Disk D L) : Disk D L × Bool :=
  match opens disk.fs target (names.map Comp.name) with
  | none => (disk, false)
  | some l => if host.refuses l then (disk, false) else (disk.touch l (Fs.setFile disk.fs l update), true)

/-- What `fs::write` makes of a file: a new one may be read by everybody. -/
def written (bytes : List UInt8) (old : Option FileData) : FileData := ⟨bytes, (old.map FileData.mode).getD 0o644⟩

/-- `remove_file`. -/
def removeFileAt (disk : Disk D L) : Disk D L × Bool :=
  match resolve disk.fs false target (names.map Comp.name) with
  | none => (disk, false)
  | some l =>
    if disk.fs.isDir l || host.refuses l then (disk, false)
    else (disk.change (disk.fs.unlink l), true)

/-- `set_permissions`. -/
def setPermissionsAt (mode : ℕ) (disk : Disk D L) : Disk D L × Bool :=
  match resolve disk.fs true target (names.map Comp.name) with
  | none => (disk, false)
  | some l =>
    if host.refuses l then (disk, false)
    else
      match disk.fs l with
      | some (.file data) => (disk.touch l (disk.fs.put l (.file { data with mode := mode })), true)
      | _ => (disk.touch l disk.fs, true)

/-- Read the file at a path. -/
def readAt (fs : Fs FileData D L) : Option (List UInt8) :=
  (resolve fs true target (names.map Comp.name)).bind fun l =>
    match fs l with
    | some (.file data) => some data.bytes
    | _ => none

/-- A failure is an error. -/
def orFail (result : Disk D L × Bool) (e : BoxError) : Disk D L × Except BoxError Unit :=
  (result.1, if result.2 then .ok () else .error e)

/-- Go on after a success. -/
def andThen (result : Disk D L × Except BoxError Unit) (next : Disk D L → Disk D L × Except BoxError Unit) :
    Disk D L × Except BoxError Unit :=
  match result with
  | (disk, .ok ()) => next disk
  | (disk, .error e) => (disk, .error e)

/-! ### Steps -/

/-- The guest's first process on the host. -/
structure GuestInit where
  path : String
  file : Option FileData

/-- `sbin`. -/
def sbinName : Name := utf8 "sbin"

/-- `init`. -/
def initName : Name := utf8 "init"

/-- `etc`. -/
def etcName : Name := utf8 "etc"

/-- What the runtime does with a root file system. -/
inductive Step (E : Type) where
  | makeDir (name : String)
  | makeDirIn (above name : String)
  | extract (entries : List (Except Unreadable (TarEntry E)))
  | guestInit (init : GuestInit)
  /-- `write_file` in `etc`; the content may depend on what is there. -/
  | writeFile (name : String) (content : Option (List UInt8) → List UInt8)
  | resolv (bytes : List UInt8)

/-- The path of the guest's first process. -/
def initPath : List Name := [sbinName, initName]

/-- Remove what is at the path of the guest's first process, if anything is. -/
def removeExisting (dest : String) (disk : Disk D L) : Disk D L × Except BoxError Unit :=
  let why := host.why
  if (resolve disk.fs true target (initPath.map Comp.name)).isSome ||
      (resolve disk.fs false target (initPath.map Comp.name)).isSome then
    orFail (removeFileAt host target initPath disk) (.buildError s!"Failed to remove existing {dest}: {why}")
  else (disk, .ok ())

/-- Make the guest's first process executable. -/
def makeExecutable (disk : Disk D L) : Disk D L × Except BoxError Unit :=
  let why := host.why
  if (resolve disk.fs true target (initPath.map Comp.name)).isNone then
    (disk, .error (.buildError s!"Failed to get permissions: {why}"))
  else orFail (setPermissionsAt host target initPath 0o755 disk) (.buildError s!"Failed to set permissions: {why}")

/-- Copy the guest's first process to its path, and make it executable. -/
def copyGuestInit (dest : String) (file : FileData) (disk : Disk D L) : Disk D L × Except BoxError Unit :=
  let why := host.why
  andThen (orFail (openAndWrite host target initPath (fun _ => file) disk)
    (.buildError s!"Failed to copy guest init to {dest}: {why}")) (makeExecutable host target)

/-- `install_guest_init`; `root` is the path of the root file system as it is shown in messages. -/
def installGuestInit (root : String) (init : GuestInit) (disk : Disk D L) : Disk D L × Except BoxError Unit :=
  let dir := root ++ "/sbin"
  let dest := dir ++ "/init"
  let why := host.why
  let path := init.path
  match init.file with
  | none => (disk, .error (.buildError s!"Guest init binary not found: {path}"))
  | some file =>
    andThen (orFail (createDirAllAt host target [sbinName] disk)
      (.buildError s!"Failed to create /sbin directory: {why}")) fun disk =>
    andThen (orFail (createDirAllAt host target [sbinName] disk)
      (.buildError s!"Failed to create guest init install directory {dir}: {why}")) fun disk =>
    andThen (removeExisting host target dest disk) (copyGuestInit host target dest file)

/-- Run a step. -/
def Step.run (root : String) (disk : Disk D L) : Step E → Disk D L × Except BoxError Unit
  | .makeDir name =>
    let dir := root ++ "/" ++ name
    let why := host.why
    orFail (createDirAllAt host target [utf8 name] disk) (.buildError s!"Failed to create directory {dir}: {why}")
  | .makeDirIn above name =>
    let dir := root ++ "/" ++ above ++ "/" ++ name
    let why := host.why
    orFail (createDirAllAt host target [utf8 above, utf8 name] disk)
      (.buildError s!"Failed to create directory {dir}: {why}")
  | .extract entries =>
    let why := host.why
    andThen (orFail (createDirAllAt host target [] disk)
      (.ociImageError s!"Failed to create target directory {root}: {why}")) fun disk =>
    let extracted := extractLayer host.tar target root disk.fs entries
    (disk.change extracted.1, extracted.2)
  | .guestInit init => installGuestInit host target root init disk
  | .writeFile name content =>
    let path := root ++ "/etc/" ++ name
    let why := host.why
    let bytes := content (readAt target [etcName, utf8 name] disk.fs)
    andThen (orFail (createDirAllAt host target [etcName] disk)
      (.buildError s!"Failed to create parent directory: {why}")) fun disk =>
    orFail (openAndWrite host target [etcName, utf8 name] (written bytes) disk)
      (.buildError s!"Failed to write {path}: {why}")
  | .resolv bytes =>
    orFail (openAndWrite host target [etcName, utf8 "resolv.conf"] (written bytes) disk) (.ioError host.why)

/-- Run steps until one fails. -/
def runSteps (host : Host E D L) (target : Location) (root : String) :
    List (Step E) → Disk D L → Disk D L × Except BoxError Unit
  | [], disk => (disk, .ok ())
  | step :: rest, disk => andThen (step.run host target root disk) (runSteps host target root rest)

/-- `create_base_structure`. -/
def baseSteps : List (Step E) :=
  [.makeDir "dev", .makeDir "proc", .makeDir "sys", .makeDir "tmp", .makeDir "run", .makeDir "etc", .makeDir "var",
    .makeDirIn "var" "tmp", .makeDirIn "var" "log", .makeDir "workspace"]

/-- `create_essential_files`. -/
def essentialSteps (resolvConf : Option String) : List (Step E) :=
  [.writeFile "passwd" (ensureEntries requiredUsers), .writeFile "group" (ensureEntries requiredGroups),
    .writeFile "hosts" fun _ => utf8 hostsText, .writeFile "resolv.conf" fun _ => utf8 (resolvConf.getD resolvText),
    .writeFile "nsswitch.conf" fun _ => utf8 nsswitchText]

/-- `install_guest_init_only`. -/
def refreshSteps (init : Option GuestInit) : List (Step E) := init.toList.map .guestInit

/-- `build`. -/
def buildSteps (layers : List (List (Except Unreadable (TarEntry E)))) (init : Option GuestInit)
    (resolvConf : Option String) : List (Step E) :=
  baseSteps ++ layers.map .extract ++ refreshSteps init ++ essentialSteps resolvConf

/-- What is done with a root file system. -/
inductive Task (E : Type) where
  | build (layers : List (List (Except Unreadable (TarEntry E)))) (init : Option GuestInit) (resolvConf : Option String)
  | refresh (init : Option GuestInit)
  | resolv (bytes : List UInt8)

/-- The steps of a task. -/
def Task.steps : Task E → List (Step E)
  | .build layers init resolvConf => buildSteps layers init resolvConf
  | .refresh init => refreshSteps init
  | .resolv bytes => [.resolv bytes]

/-- Tasks one after another, whether they fail or not. -/
def runTasks (root : String) (disk : Disk D L) (tasks : List (Task E)) : Disk D L :=
  tasks.foldl (fun disk task => (runSteps host target root task.steps disk).1) disk

/-! ### What is touched -/

/-- Everything that was touched is inside the root file system. -/
def Disk.Within : Prop := ∀ q ∈ disk.touched, target <+: q

/-- `unpack_in` changes nothing outside the target, and does not replace the target. -/
structure Tar.Contained (tar : Tar E FileData D L) (target : Location) : Prop where
  inside : tar.StaysInside target
  rooted : ∀ fs entry, fs.Rooted target → (tar.unpackIn target fs entry).1.Rooted target

/-- A part of a run stays inside exactly if it did before and a condition holds; then the root file system is there or
missing. -/
structure Confines (target : Location) (disk disk' : Disk D L) (condition : Prop) : Prop where
  iff : disk'.Within target ↔ disk.Within target ∧ condition
  rooted : disk'.Within target → disk'.fs.Rooted target

variable {fs : Fs FileData D L} {disk : Disk D L} {target : Location}

theorem within_change : (disk.change fs).Within target ↔ disk.Within target ∧ ∀ q, fs q ≠ disk.fs q → target <+: q := by
  simp only [Disk.Within, Disk.change, Set.mem_union, Set.mem_ofPred_eq, or_imp, forall_and]

variable {l p : Location} {c : Prop}

theorem within_touch : (disk.touch l fs).Within target ↔ disk.Within target ∧ target <+: l := by
  simp only [Disk.Within, Disk.touch, Set.mem_insert_iff, or_imp, forall_and, forall_eq, and_comm]

variable {q : Location} {a : Name} {path : TarPath}

section Steps

variable {host : Host E D L} {target : Location} {root : String} {disk disk' disk'' : Disk D L}

theorem Confines.refl (h : disk.fs.Rooted target) : Confines target disk disk True :=
  ⟨(and_iff_left trivial).symm, fun _ => h⟩

theorem Confines.congr {c' : Prop} (h : Confines target disk disk' c) (hc : c ↔ c') :
    Confines target disk disk' c' := ⟨h.iff.trans (and_congr_right fun _ => hc), h.rooted⟩

theorem confines_grown (h : Grown target disk.fs fs) : Confines target disk (disk.change fs) True :=
  ⟨within_change.trans (and_congr_right fun _ => iff_of_true h.inside trivial), fun _ => h.rooted⟩

/-- What was touched stays so, and nothing else is changed. -/
structure Disk.Follows (disk disk' : Disk D L) : Prop where
  touched : disk.touched ⊆ disk'.touched
  same : ∀ q ∉ disk'.touched, disk'.fs q = disk.fs q

theorem Disk.Follows.refl (disk : Disk D L) : disk.Follows disk := ⟨subset_rfl, fun _ _ => rfl⟩

theorem Disk.Follows.trans (h : disk.Follows disk') (h' : disk'.Follows disk'') : disk.Follows disk'' :=
  ⟨h.touched.trans h'.touched, fun q hq => (h'.same q hq).trans (h.same q fun hq' => hq (h'.touched hq'))⟩

theorem follows_change (disk : Disk D L) (fs : Fs FileData D L) : disk.Follows (disk.change fs) :=
  ⟨Set.subset_union_left, fun _ hq => not_not.mp fun hne => hq (.inr hne)⟩

theorem follows_touch (h : ∀ q, q ≠ l → fs q = disk.fs q) : disk.Follows (disk.touch l fs) :=
  ⟨Set.subset_insert .., fun q hq => h q fun heq => hq (.inl heq)⟩

/-- An operation keeps an account of what it changes. -/
def Grows (operation : Disk D L → Disk D L) : Prop := ∀ disk : Disk D L, disk.Follows (operation disk)

theorem Disk.Follows.within (h : disk.Follows disk') (hwithin : disk'.Within target) :
    disk.Within target := fun q hq => hwithin q (h.touched hq)

theorem Confines.trans (h : Confines target disk disk' True)
    (h' : Confines target disk' disk'' c) : Confines target disk disk'' c :=
  ⟨h'.iff.trans (and_congr_left fun _ => h.iff.trans (and_iff_left trivial)), h'.rooted⟩

variable {next : Disk D L → Disk D L × Except BoxError Unit}

theorem Confines.andThen {result : Disk D L × Except BoxError Unit} {k : Disk D L → Prop}
    (h : Confines target disk result.1 c) (hgrows : Grows fun disk => (next disk).1)
    (hnext : result.2 = .ok () → result.1.fs.Rooted target → Confines target result.1 (next result.1).1 (k result.1)) :
    Confines target disk (andThen result next).1 (c ∧ (result.2 = .ok () → k result.1)) := by
  obtain ⟨disk', _ | ⟨⟨⟩⟩⟩ := result
  · exact h.congr ⟨fun hc => ⟨hc, nofun⟩, And.left⟩
  · simp only [forall_const] at hnext ⊢
    refine ⟨⟨fun hwithin => ?_, ?_⟩, fun hwithin => ?_⟩
    · have hdisk' := (hgrows disk').within hwithin
      obtain ⟨hdisk, hc⟩ := h.iff.mp hdisk'
      exact ⟨hdisk, hc, ((hnext (h.rooted hdisk')).iff.mp hwithin).2⟩
    · rintro ⟨hdisk, hc, hc'⟩
      have hdisk' := h.iff.mpr ⟨hdisk, hc⟩
      exact (hnext (h.rooted hdisk')).iff.mpr ⟨hdisk', hc'⟩
    · exact (hnext (h.rooted ((hgrows disk').within hwithin))).rooted hwithin

/-! ### Nothing is changed that is not touched -/

variable (names : List Name)

theorem grows_createDirAllAt : Grows fun disk => (createDirAllAt host target names disk).1 :=
  fun disk => follows_change disk _

theorem setFile_of_ne (fs : Fs FileData D L) (update : Option FileData → FileData) (h : q ≠ l) :
    Fs.setFile fs l update q = fs q := by
  rcases hnode : fs l with _ | ⟨_ | _ | _⟩ <;> simp only [Fs.setFile, hnode] <;> exact if_neg h

theorem grows_openAndWrite (update : Option FileData → FileData) :
    Grows fun disk => (openAndWrite host target names update disk).1 := by
  intro disk
  dsimp only [openAndWrite]
  split
  · exact .refl _
  · split_ifs
    · exact .refl _
    · exact follows_touch fun q hq => setFile_of_ne disk.fs update hq

theorem grows_removeFileAt : Grows fun disk => (removeFileAt host target names disk).1 := by
  intro disk
  dsimp only [removeFileAt]
  split
  · exact .refl _
  · split_ifs
    · exact .refl _
    · exact follows_change disk _

theorem grows_setPermissionsAt (mode : ℕ) : Grows fun disk => (setPermissionsAt host target names mode disk).1 := by
  intro disk
  dsimp only [setPermissionsAt]
  split
  · exact .refl _
  · split_ifs
    · exact .refl _
    · split
      · exact follows_touch fun q hq => if_neg hq
      · exact follows_touch fun _ _ => rfl

theorem Grows.orFail {operation : Disk D L → Disk D L × Bool} (h : Grows fun disk => (operation disk).1)
    (e : BoxError) : Grows fun disk => (orFail (operation disk) e).1 := h

theorem follows_andThen (result : Disk D L × Except BoxError Unit) (hnext : Grows fun disk => (next disk).1) :
    result.1.Follows (andThen result next).1 := by
  obtain ⟨disk, _ | ⟨⟨⟩⟩⟩ := result
  · exact .refl _
  · exact hnext disk

theorem Grows.andThen {first : Disk D L → Disk D L × Except BoxError Unit} (hfirst : Grows fun disk => (first disk).1)
    (hnext : Grows fun disk => (next disk).1) : Grows fun disk => (andThen (first disk) next).1 :=
  fun disk => (hfirst disk).trans (follows_andThen _ hnext)

theorem grows_removeExisting (dest : String) : Grows fun disk => (removeExisting host target dest disk).1 := by
  intro disk
  dsimp only [removeExisting]
  split_ifs
  · exact grows_removeFileAt _ disk
  · exact .refl _

theorem grows_makeExecutable : Grows fun disk => (makeExecutable host target disk).1 := by
  intro disk
  dsimp only [makeExecutable]
  split_ifs
  · exact .refl _
  · exact grows_setPermissionsAt _ _ disk

theorem grows_copyGuestInit (dest : String) (file : FileData) :
    Grows fun disk => (copyGuestInit host target dest file disk).1 :=
  Grows.andThen ((grows_openAndWrite _ _).orFail _) grows_makeExecutable

theorem grows_installGuestInit (init : GuestInit) :
    Grows fun disk => (installGuestInit host target root init disk).1 := by
  intro disk
  dsimp only [installGuestInit]
  split
  · exact .refl _
  · exact Grows.andThen ((grows_createDirAllAt _).orFail _) (Grows.andThen ((grows_createDirAllAt _).orFail _)
      (Grows.andThen (grows_removeExisting _) (grows_copyGuestInit _ _))) disk

theorem Step.grows (step : Step E) : Grows fun disk : Disk D L => (step.run host target root disk).1 := by
  cases step with
  | makeDir name | makeDirIn above name => exact grows_createDirAllAt _
  | extract => exact Grows.andThen ((grows_createDirAllAt _).orFail _) fun disk => follows_change disk _
  | guestInit init => exact grows_installGuestInit init
  | writeFile =>
    intro disk
    exact Grows.andThen ((grows_createDirAllAt _).orFail _) ((grows_openAndWrite _ _).orFail _) disk
  | resolv => exact grows_openAndWrite _ _

theorem grows_runSteps (steps : List (Step E)) :
    Grows fun disk : Disk D L => (runSteps host target root steps disk).1 := by
  induction steps with
  | nil => exact fun disk => .refl disk
  | cons step _ ih => exact Grows.andThen step.grows ih

/-- **Tasks change nothing that is not touched.** -/
theorem grows_runTasks (tasks : List (Task E)) : Grows fun disk : Disk D L => runTasks host target root disk tasks := by
  induction tasks with
  | nil => exact fun disk => .refl disk
  | cons task _ ih => exact fun disk => (grows_runSteps task.steps disk).trans (ih _)

/-! ### Where the links lead -/

/-- The condition on a step: the links in the tree lead what it writes to a location inside. -/
def Step.Inside (host : Host E D L) (target : Location) (root : String) (fs : Fs FileData D L) : Step E → Prop
  | .makeDir _ => True
  | .makeDirIn above name =>
    ∀ d, resolveDir fs target [.name (utf8 above)] = some d → fs (d ++ [utf8 name]) = none →
      host.refuses (d ++ [utf8 name]) = false → target <+: d ++ [utf8 name]
  | .extract entries =>
    let made := makeDirs host.refuses host.fresh fs target []
    made.2 = true → MarkersInside host.tar target root made.1 entries
  | .guestInit init =>
    let made := makeDirs host.refuses host.fresh fs target [sbinName]
    init.file ≠ none → made.2 = true → ∀ d, resolveDir made.1 target [.name sbinName] = some d →
      made.1.isDir (d ++ [initName]) = false → host.refuses (d ++ [initName]) = false → target <+: d ++ [initName]
  | .writeFile name _ =>
    let made := makeDirs host.refuses host.fresh fs target [etcName]
    made.2 = true → ∀ l, opens made.1 target [.name etcName, .name (utf8 name)] = some l → host.refuses l = false →
      target <+: l
  | .resolv _ =>
    ∀ l, opens fs target [.name etcName, .name (utf8 "resolv.conf")] = some l → host.refuses l = false → target <+: l

/-- The condition on steps: each that is reached meets it, in the tree as it is then. -/
def StepsInside (host : Host E D L) (target : Location) (root : String) : List (Step E) → Disk D L → Prop
  | [], _ => True
  | step :: rest, disk =>
    step.Inside host target root disk.fs ∧
      ((step.run host target root disk).2 = .ok () →
        StepsInside host target root rest (step.run host target root disk).1)

/-- All steps stay inside. -/
def TasksInside (host : Host E D L) (target : Location) (root : String) : List (Task E) → Disk D L → Prop
  | [], _ => True
  | task :: rest, disk =>
    StepsInside host target root task.steps disk ∧
      TasksInside host target root rest (runSteps host target root task.steps disk).1

theorem orFail_ok {result : Disk D L × Bool} {e : BoxError} : (orFail result e).2 = .ok () ↔ result.2 = true := by
  obtain ⟨_, _ | _⟩ := result <;> simp [orFail]

/-- What is no directory may be replaced without a directory above the root file system being lost. -/
theorem rooted_of_not_dir {fs' : Fs FileData D L} (hrooted : fs.RealDir target) (hnot : fs.isDir l = false)
    (hsame : ∀ q, q ≠ l → fs' q = fs q) : fs'.RealDir target := by
  intro q hq
  have hdir := hrooted q hq
  have hne : q ≠ l := by
    rintro rfl
    rw [hdir] at hnot
    cases hnot
  rw [Fs.isDir, hsame q hne]
  exact hdir

theorem not_dir_of_writable (h : fs.Writable l) : fs.isDir l = false := by
  rcases hnode : fs l with _ | node
  · rw [Fs.isDir, hnode]
    rfl
  · obtain ⟨_, rfl⟩ := h node hnode
    rw [Fs.isDir, hnode]
    rfl

/-- Nothing is opened below a root file system that is missing. -/
theorem realDir_of_opens (h : fs.Rooted target) {b} (hopens : opens fs target [.name a, .name b] = some l) :
    fs.RealDir target := by
  refine h.resolve_right ?_
  rintro ⟨-, -, hnone⟩
  rw [opens, maxLinks, openWalk, openNames, hnone _ (prefix_append _ _)] at hopens
  cases hopens

/-- Opening and writing a file in a directory stays inside exactly if the links lead there. -/
theorem confines_openAndWrite (h : disk.fs.Rooted target) (a b : Name) (update : Option FileData → FileData) :
    Confines target disk (openAndWrite host target [a, b] update disk).1
      (∀ l, opens disk.fs target [.name a, .name b] = some l → host.refuses l = false → target <+: l) := by
  change Confines target disk (match opens disk.fs target [.name a, .name b] with
    | none => (disk, false)
    | some l => if host.refuses l = true then (disk, false)
      else (disk.touch l (Fs.setFile disk.fs l update), true)).1 _
  rcases hopens : opens disk.fs target [.name a, .name b] with _ | _
  · exact (Confines.refl h).congr (iff_of_true trivial nofun)
  · simp only [Option.some.injEq, forall_eq']
    split_ifs with hrefuses
    · exact (Confines.refl h).congr (iff_of_true trivial fun hfalse => by rw [hrefuses] at hfalse; cases hfalse)
    · rw [Bool.not_eq_true] at hrefuses
      refine ⟨within_touch.trans (and_congr_right fun _ => ⟨fun hl _ => hl, fun hl => hl hrefuses⟩), fun _ => .inl ?_⟩
      exact rooted_of_not_dir (realDir_of_opens h hopens) (not_dir_of_writable (opens_writable hopens))
        fun q hq => setFile_of_ne disk.fs update hq

/-! ### Layers -/

theorem ne_nil_of_whiteoutDoomed {start parent victim}
    (h : whiteoutDoomed fs start parent victim = some (.tree p)) : p ≠ [] := by
  rw [whiteoutDoomed] at h
  split at h
  · cases h
  · split_ifs at h with _ hself
    all_goals cases h
    · exact hself.1
    · exact append_ne_nil_of_right_ne_nil _ (cons_ne_nil _ _)

/-- The root directory of the host is not removed. -/
theorem ne_nil_of_doomed (h : doomed fs target path = some (.tree p)) : p ≠ [] := by
  rw [doomed] at h
  split at h
  · obtain ⟨_, -, hd⟩ := Option.map_eq_some_iff.mp h
    cases hd
  · exact ne_nil_of_whiteoutDoomed h
  · cases h

theorem covers_below_of_covers {d : Doomed} (h : d.covers p = true) (hq : p <+: q) : d.covers q = true := by
  cases d with
  | tree => exact covers_tree.mpr ((covers_tree.mp h).trans hq)
  | below =>
    obtain ⟨hpre, hne⟩ := covers_below.mp h
    refine covers_below.mpr ⟨hpre.trans hq, ?_⟩
    rintro rfl
    exact hne (hpre.eq_of_length_le hq.length_le)

theorem rooted_remove {d : Doomed} (hd : doomed fs target path = some d) (hinside : CoversInside fs target d)
    (h : fs.Rooted target) : (fs.remove d).Rooted target := by
  -- the directories above are not inside, so that they stay
  have habove : ∀ q, q <+: target → q ≠ target → fs.isDir q = true → (fs.remove d).isDir q = true := by
    intro q hq hne hdir
    have hcovers : d.covers q = false := by
      by_contra hcovers
      rw [Bool.not_eq_false] at hcovers
      have hpre := hinside q hcovers (ne_none_of_isDir hdir)
      exact hne (hq.eq_of_length_le hpre.length_le)
    rw [Fs.isDir, remove_of_not_covers hcovers]
    exact hdir
  have hstrict : ∀ q, target ≠ [] → q <+: target.dropLast → q <+: target ∧ q ≠ target := by
    intro q hne hq
    refine ⟨hq.trans (List.dropLast_prefix _), ?_⟩
    rintro rfl
    have hlength := hq.length_le
    have hpos := length_pos_iff.mpr hne
    rw [length_dropLast] at hlength
    omega
  rcases h with hreal | ⟨hne, hreal, hnone⟩
  · rcases hcovers : d.covers target with _ | _
    · refine .inl fun q hq => ?_
      by_cases hself : q = target
      · rw [hself, Fs.isDir, remove_of_not_covers hcovers]
        exact hreal target prefix_rfl
      · exact habove q hq hself (hreal q hq)
    · have hne : target ≠ [] := by
        rintro rfl
        cases d with
        | tree => exact ne_nil_of_doomed hd (prefix_nil.mp (covers_tree.mp hcovers))
        | below =>
          obtain ⟨hpre, hp⟩ := covers_below.mp hcovers
          exact hp (prefix_nil.mp hpre)
      refine .inr ⟨hne, fun q hq => ?_, fun q hq => remove_of_covers (covers_below_of_covers hcovers hq)⟩
      obtain ⟨hpre, hself⟩ := hstrict q hne hq
      exact habove q hpre hself (hreal q hpre)
  · refine .inr ⟨hne, fun q hq => ?_, fun q hq => ?_⟩
    · obtain ⟨hpre, hself⟩ := hstrict q hne hq
      exact habove q hpre hself (hreal q hq)
    · rw [Fs.remove, hnone q hq, ite_self]

variable (htar : Tar.Contained host.tar target)

include htar

theorem rooted_extractEntry {entry} (hinside : MarkerInside fs target entry.path) (h : fs.Rooted target) :
    (extractEntry host.tar target root fs entry).1.Rooted target := by
  by_cases hrole : entry.path.role = .unpacked
  · have hunpack := htar.rooted fs entry h
    rw [extractEntry, hrole]
    rcases hresult : host.tar.unpackIn target fs entry with ⟨_, _ | ⟨⟨⟩⟩⟩
    · rwa [hresult] at hunpack
    · rwa [hresult] at hunpack
  · rw [extractEntry_marker hrole]
    rcases hd : doomed fs target entry.path with _ | d
    · exact h
    · exact rooted_remove hd (markerInside_iff.mp hinside d hd) h

/-- A layer stays inside exactly if its markers do, and then the root file system is still there or missing. -/
theorem extractLayer_rooted {entries} (h : fs.Rooted target) :
    (SameOutside target fs (extractLayer host.tar target root fs entries).1 ↔
        MarkersInside host.tar target root fs entries) ∧
      (MarkersInside host.tar target root fs entries →
        (extractLayer host.tar target root fs entries).1.Rooted target) := by
  induction entries generalizing fs with
  | nil => exact ⟨iff_of_true (fun _ _ => rfl) trivial, fun _ => h⟩
  | cons item _ ih =>
    rcases item with _ | entry
    · exact ⟨iff_of_true (fun _ _ => rfl) trivial, fun _ => h⟩
    · have hentry : MarkerInside fs target entry.path → fs.Rooted target →
          (extractEntry host.tar target root fs entry).1.Rooted target := rooted_extractEntry htar
      constructor
      · rw [sameOutside_cons htar.inside]
        exact and_congr_right fun hinside => imp_congr_right fun _ => (ih (hentry hinside h)).1
      · intro hinside
        have hrooted := hentry hinside.1 h
        have hrest := fun hok => (ih hrooted).2 (hinside.2 hok)
        rw [extractLayer_cons]
        rcases hresult : extractEntry host.tar target root fs entry with ⟨_, _ | ⟨⟨⟩⟩⟩
        · rwa [hresult] at hrooted
        · rw [hresult] at hrest
          exact hrest rfl

theorem confines_extract (h : disk.fs.Rooted target) (entries : List (Except Unreadable (TarEntry E))) :
    Confines target disk (disk.change (extractLayer host.tar target root disk.fs entries).1)
      (MarkersInside host.tar target root disk.fs entries) := by
  obtain ⟨hsame, hrooted⟩ : _ ∧ (MarkersInside host.tar target root disk.fs entries → _) := extractLayer_rooted htar h
  have hiff : (∀ q, (extractLayer host.tar target root disk.fs entries).1 q ≠ disk.fs q → target <+: q) ↔
      MarkersInside host.tar target root disk.fs entries := by
    rw [← hsame]
    exact forall_congr' fun q => not_imp_comm
  refine ⟨within_change.trans (and_congr_right fun _ => hiff), fun hwithin => ?_⟩
  exact hrooted (hiff.mp (within_change.mp hwithin).2)

omit htar

/-! ### The guest's first process -/

/-- A part of a run that touches one location, if a condition holds. -/
theorem confines_one (hgrows : disk.touched ⊆ disk'.touched)
    (hcover : ∀ q ∈ disk'.touched, q ∈ disk.touched ∨ q = l ∧ c) (hmem : c → l ∈ disk'.touched)
    (hrooted : disk'.fs.Rooted target) : Confines target disk disk' (c → target <+: l) := by
  refine ⟨⟨fun hwithin => ⟨fun q hq => hwithin q (hgrows hq), fun hc => hwithin l (hmem hc)⟩, ?_⟩, fun _ => hrooted⟩
  intro ⟨hdisk, hinside⟩ q hq
  rcases hcover q hq with hq | ⟨rfl, hc⟩
  · exact hdisk q hq
  · exact hinside hc

section GuestInit

variable {d : Location} (host) (dest : String) (file : FileData)

/-- Copying touches nothing but the entry of the directory that `sbin` leads to. -/
theorem copyGuestInit_touched (hreal : disk.fs.RealDir target) (hdir : disk.fs.isDir d = true)
    (hnew : disk.fs (d ++ [initName]) = none)
    (hleads : ∀ d', resolve disk.fs true target [.name sbinName] = some d' → d' = d) :
    (∀ q ∈ (copyGuestInit host target dest file disk).1.touched,
        q ∈ disk.touched ∨ q = d ++ [initName] ∧ host.refuses (d ++ [initName]) = false) ∧
      (copyGuestInit host target dest file disk).1.fs.RealDir target := by
  rcases hopens : opens disk.fs target (initPath.map Comp.name) with _ | l
  · simp only [copyGuestInit, openAndWrite, hopens]
    exact ⟨fun q hq => .inl hq, hreal⟩
  · obtain ⟨d', hd', hl⟩ : ∃ d', resolve disk.fs true target [.name sbinName] = some d' ∧
        (disk.fs.Writable (d' ++ [initName]) → l = d' ++ [initName]) := opens_entry_inv hopens
    obtain rfl := hleads d' hd'
    obtain rfl := hl fun node hnode => by rw [hnew] at hnode; cases hnode
    rcases hrefuses : host.refuses (d' ++ [initName]) with _ | _
    · -- what was copied is found again, so that its mode is changed and no other
      have hset : Fs.setFile disk.fs (d' ++ [initName]) (fun _ => file) =
          disk.fs.put (d' ++ [initName]) (.file file) := by
        simp [Fs.setFile, hnew]
      have hext := extends_put hnew (.file file)
      have hreal' := realDir_mono hext hreal
      have hfound : resolve (disk.fs.put (d' ++ [initName]) (.file file)) true target (initPath.map Comp.name) =
          some (d' ++ [initName]) := by
        have hsbin := resolveDir_mono hext (resolveDir_eq_some.mpr ⟨hd', hdir⟩)
        refine (resolve_entry hsbin fun _ => by simp [put_self]).trans ?_
        rw [Fs.entry, put_self]
        rfl
      simp only [copyGuestInit, openAndWrite, hopens, hrefuses, Bool.false_eq_true, if_false, orFail, if_true, andThen,
        makeExecutable, hset, Disk.touch, hfound, Option.isNone_some, setPermissionsAt, put_self]
      refine ⟨fun q hq => ?_, rooted_of_not_dir hreal' ?_ fun q hq => if_neg hq⟩
      · rw [Set.mem_insert_iff, Set.mem_insert_iff, ← or_assoc, or_self] at hq
        exact hq.symm.imp_right fun hq => ⟨hq, trivial⟩
      · rw [Fs.isDir, put_self]
        rfl
    · simp only [copyGuestInit, openAndWrite, hopens, hrefuses]
      exact ⟨fun q hq => .inl hq, hreal⟩

variable (hsbin : resolveDir disk.fs target [.name sbinName] = some d)
include hsbin

theorem mem_copyGuestInit (hnew : disk.fs (d ++ [initName]) = none)
    (hrefuses : host.refuses (d ++ [initName]) = false) :
    d ++ [initName] ∈ (copyGuestInit host target dest file disk).1.touched := by
  have hopens : opens disk.fs target (initPath.map Comp.name) = some (d ++ [initName]) :=
    opens_entry hsbin fun node hnode => by rw [hnew] at hnode; cases hnode
  have hwritten : d ++ [initName] ∈ (openAndWrite host target initPath (fun _ => file) disk).1.touched := by
    simp only [openAndWrite, hopens, hrefuses]
    exact Set.mem_insert _ _
  exact (follows_andThen (orFail _ _) grows_makeExecutable).touched hwritten

theorem removeExisting_eq : (disk.fs (d ++ [initName]) = none ∧ removeExisting host target dest disk = (disk, .ok ())) ∨
      (disk.fs (d ++ [initName]) ≠ none ∧
        removeExisting host target dest disk =
          let why := host.why
          orFail (if disk.fs.isDir (d ++ [initName]) || host.refuses (d ++ [initName]) then (disk, false)
            else (disk.change (disk.fs.unlink (d ++ [initName])), true))
              (.buildError s!"Failed to remove existing {dest}: {why}")) := by
  have hfound : resolve disk.fs false target (initPath.map Comp.name) = disk.fs.entry d initName :=
    resolve_entry hsbin nofun
  rcases hnode : disk.fs (d ++ [initName]) with _ | node
  · have hfollowed : resolve disk.fs true target (initPath.map Comp.name) = disk.fs.entry d initName :=
      resolve_entry hsbin fun _ => by simp [hnode]
    refine .inl ⟨rfl, ?_⟩
    simp only [removeExisting, hfound, hfollowed, Fs.entry, hnode]
    rfl
  · refine .inr ⟨Option.some_ne_none node, ?_⟩
    simp [removeExisting, removeFileAt, hfound, Fs.entry, hnode]

/-- What comes after a removal touches nothing else. -/
theorem removed_touched (hreal : disk.fs.RealDir target) (hnotdir : disk.fs.isDir (d ++ [initName]) = false) :
    (∀ q ∈ (copyGuestInit host target dest file (disk.change (disk.fs.unlink (d ++ [initName])))).1.touched,
        q ∈ disk.touched ∨ q = d ++ [initName]) ∧
      (copyGuestInit host target dest file (disk.change (disk.fs.unlink (d ++ [initName])))).1.fs.RealDir target := by
  obtain ⟨hresolve, hdir⟩ := resolveDir_eq_some.mp hsbin
  have hself : d ≠ d ++ [initName] := fun heq => cons_ne_nil _ _ (append_right_eq_self.mp heq.symm)
  have hreal' : (disk.fs.unlink (d ++ [initName])).RealDir target :=
    rooted_of_not_dir hreal hnotdir fun q hq => unlink_of_ne disk.fs hq
  have hdir' : (disk.fs.unlink (d ++ [initName])).isDir d = true := by
    rw [Fs.isDir, unlink_of_ne disk.fs hself]
    exact hdir
  have hleads : ∀ d', resolve (disk.fs.unlink (d ++ [initName])) true target [.name sbinName] = some d' → d' = d :=
    fun d' hd' => Option.some.inj ((resolve_mono (unlink_extends disk.fs _) hd').symm.trans hresolve)
  obtain ⟨hcover, hreal''⟩ := @copyGuestInit_touched E D L host target (disk.change (disk.fs.unlink (d ++ [initName])))
    d dest file hreal' hdir' (unlink_self disk.fs _) hleads
  refine ⟨fun q hq => ?_, hreal''⟩
  rcases hcover q hq with (hq | hchanged) | ⟨hq, -⟩
  · exact .inl hq
  · exact .inr (not_not.mp fun hne => hchanged (unlink_of_ne disk.fs hne))
  · exact .inr hq

/-- **Replacing the guest's first process** stays inside exactly if the directory that `sbin` leads to is inside. -/
theorem confines_replace (hreal : disk.fs.RealDir target) :
    Confines target disk (andThen (removeExisting host target dest disk) (copyGuestInit host target dest file)).1
      (disk.fs.isDir (d ++ [initName]) = false ∧ host.refuses (d ++ [initName]) = false →
        target <+: d ++ [initName]) := by
  obtain ⟨hresolve, hdir⟩ := resolveDir_eq_some.mp hsbin
  have hgrows : disk.Follows
      (andThen (removeExisting host target dest disk) (copyGuestInit host target dest file)).1 :=
    Grows.andThen (grows_removeExisting dest) (grows_copyGuestInit dest file) disk
  rcases removeExisting_eq host dest hsbin with ⟨hnew, hremove⟩ | ⟨hthere, hremove⟩
  · rw [hremove] at hgrows ⊢
    have hleads : ∀ d', resolve disk.fs true target [.name sbinName] = some d' → d' = d :=
      fun d' hd' => Option.some.inj (hd'.symm.trans hresolve)
    obtain ⟨hcover, hreal'⟩ := copyGuestInit_touched host dest file hreal hdir hnew hleads
    have hnotdir : disk.fs.isDir (d ++ [initName]) = false := by
      rw [Fs.isDir, hnew]
      rfl
    refine confines_one hgrows.touched (fun q hq => ?_) ?_ (.inl hreal')
    · exact (hcover q hq).imp_right fun hnew => ⟨hnew.1, hnotdir, hnew.2⟩
    · exact fun hc => mem_copyGuestInit host dest file hsbin hnew hc.2
  · rw [hremove] at hgrows ⊢
    rcases hfails : disk.fs.isDir (d ++ [initName]) || host.refuses (d ++ [initName]) with _ | _
    · obtain ⟨hnotdir, hrefuses⟩ := Bool.or_eq_false_iff.mp hfails
      simp only [hfails, Bool.false_eq_true, if_false, orFail] at hgrows ⊢
      obtain ⟨hcover, hreal'⟩ := removed_touched host dest file hsbin hreal hnotdir
      refine confines_one hgrows.touched (fun q hq => ?_) (fun _ => ?_) (.inl hreal')
      · exact (hcover q hq).imp_right fun hq => ⟨hq, hnotdir, hrefuses⟩
      · refine (grows_copyGuestInit dest file _).touched (.inr fun hsame => hthere ?_)
        rw [← hsame, unlink_self]
    · refine (Confines.refl (.inl hreal)).congr (iff_of_true trivial fun hc => ?_)
      rw [hc.1, hc.2] at hfails
      cases hfails

end GuestInit

/-! ### Runs -/

theorem confines_createDirAllAt (h : disk.fs.Rooted target) (name : Name) :
    Confines target disk (createDirAllAt host target [name] disk).1 True :=
  confines_grown (makeDirs_one host.refuses host.fresh h name).1

theorem confines_guestInit (h : disk.fs.Rooted target) (init : GuestInit) :
    Confines target disk (installGuestInit host target root init disk).1
      ((Step.guestInit init : Step E).Inside host target root disk.fs) := by
  rcases hfile : init.file with _ | file
  · simp only [installGuestInit, hfile, Step.Inside, ne_eq, not_true, false_imp_iff]
    exact .refl h
  · have hfirst : Confines target disk (createDirAllAt host target [sbinName] disk).1 True :=
      confines_createDirAllAt h sbinName
    have hmade := (makeDirs_one host.refuses host.fresh h sbinName).2
    simp only [installGuestInit, hfile, Step.Inside, ne_eq, reduceCtorEq, not_false_iff, forall_const, orFail]
    rcases hok : (makeDirs host.refuses host.fresh disk.fs target [sbinName]).2 with _ | _
    · simp only [createDirAllAt, hok, Bool.false_eq_true, false_imp_iff]
      exact hfirst
    · obtain ⟨hreal, d, hsbin, -⟩ := hmade hok
      set disk' := disk.change (makeDirs host.refuses host.fresh disk.fs target [sbinName]).1
      have hresult : createDirAllAt host target [sbinName] disk = (disk', true) := Prod.ext rfl hok
      -- the directory is there by now, so that making it once more changes nothing
      have hagain : createDirAllAt host target [sbinName] disk' = (disk'.change disk'.fs, true) := by
        have hmakes : makeDirs host.refuses host.fresh disk'.fs target [sbinName] = _ :=
          makeDirs_again host.refuses host.fresh hreal hsbin
        rw [createDirAllAt, hmakes]
        rfl
      have hreplace := @confines_replace E D L host target (disk'.change disk'.fs) d (root ++ "/sbin" ++ "/init") file
        hsbin hreal
      simp only [hresult, hagain, if_true, andThen, forall_const] at hfirst hreplace ⊢
      refine hfirst.trans ((confines_grown (.refl (.inl hreal))).trans (hreplace.congr ?_))
      rw [and_imp]
      exact ⟨fun hinside d' hd' => Option.some.inj (hsbin.symm.trans hd') ▸ hinside, fun hall => hall d hsbin⟩

/-- **One step** stays inside exactly if the links lead what it writes there. -/
theorem Step.confines (htar : Tar.Contained host.tar target) (h : disk.fs.Rooted target) (step : Step E) :
    Confines target disk (step.run host target root disk).1 (step.Inside host target root disk.fs) := by
  cases step with
  | makeDir => exact confines_createDirAllAt h _
  | makeDirIn above name =>
    obtain ⟨hrooted, hiff⟩ := makeDirs_two host.refuses host.fresh h (utf8 above) (utf8 name)
    exact ⟨within_change.trans (and_congr_right fun _ => hiff), fun _ => hrooted⟩
  | extract entries =>
    have hfirst : Confines target disk (createDirAllAt host target [] disk).1 True :=
      confines_grown (makeDirs_nil host.refuses host.fresh h).1
    refine (hfirst.andThen (fun disk => follows_change disk _)
      (k := fun disk => MarkersInside host.tar target root disk.fs entries)
      fun _ hrooted => confines_extract htar hrooted entries).congr ?_
    rw [true_and, orFail_ok]
    rfl
  | guestInit init => exact confines_guestInit h init
  | writeFile name =>
    refine ((confines_createDirAllAt h etcName).andThen ((grows_openAndWrite _ _).orFail _)
      (k := fun disk => ∀ l, opens disk.fs target [.name etcName, .name (utf8 name)] = some l →
        host.refuses l = false → target <+: l)
      fun _ hrooted => confines_openAndWrite hrooted etcName (utf8 name) _).congr ?_
    rw [true_and, orFail_ok]
    rfl
  | resolv => exact confines_openAndWrite h etcName (utf8 "resolv.conf") _

theorem confines_runSteps (htar : Tar.Contained host.tar target) (steps : List (Step E)) (h : disk.fs.Rooted target) :
    Confines target disk (runSteps host target root steps disk).1 (StepsInside host target root steps disk) := by
  induction steps generalizing disk with
  | nil => exact .refl h
  | cons step rest ih =>
    exact (step.confines htar h).andThen (grows_runSteps rest) (k := StepsInside host target root rest)
      fun _ hrooted => ih hrooted

end Steps

/-- **Where a root file system is written**: from any state of the disk, and in any order, building it, refreshing the
guest's first process and writing `resolv.conf` touch nothing outside it exactly if, whenever a step is reached, the
links in the tree lead what it writes to a location inside. -/
theorem writes_confined_iff {host : Host E D L} {target : Location} (root : String)
    (htar : Tar.Contained host.tar target) {disk : Disk D L} (hrooted : disk.fs.Rooted target)
    (hbefore : disk.Within target) (tasks : List (Task E)) :
    (runTasks host target root disk tasks).Within target ↔ TasksInside host target root tasks disk := by
  induction tasks generalizing disk with
  | nil => exact iff_of_true hbefore trivial
  | cons task rest ih =>
    have hfirst : Confines target disk (runSteps host target root task.steps disk).1
        (StepsInside host target root task.steps disk) := confines_runSteps htar task.steps hrooted
    constructor
    · intro hwithin
      have hmid := (grows_runTasks rest _).within hwithin
      exact ⟨(hfirst.iff.mp hmid).2, (ih (hfirst.rooted hmid) hmid).mp hwithin⟩
    · intro ⟨hsteps, htasks⟩
      have hmid := hfirst.iff.mpr ⟨hbefore, hsteps⟩
      exact (ih (hfirst.rooted hmid) hmid).mpr htasks

/-! ### A link at `etc/hosts` -/

/-- Nothing is unpacked below a root file system that is missing. -/
theorem plainTar_missing (h : ∀ q, target <+: q → fs q = none) (entry : TarEntry (Node FileData D L)) :
    (plainTar.unpackIn target fs entry).1 = fs := by
  simp only [plainTar]
  split
  · rfl
  · rfl
  next name parent _ hparent =>
    obtain ⟨_, -, hresolve⟩ := Option.bind_eq_some_iff.mp hparent
    have hdir := (resolveDir_eq_some.mp hresolve).2
    have hout : target.isPrefixOf parent = false := by
      by_contra hinside
      rw [Bool.not_eq_false, isPrefixOf_iff_prefix] at hinside
      rw [Fs.isDir, h parent hinside] at hdir
      cases hdir
    rw [if_pos hout]

theorem plainTar_contained (target) :
    Tar.Contained (plainTar : Tar (Node FileData D L) FileData D L) target := by
  refine ⟨plainTar_staysInside target, fun fs entry h => ?_⟩
  rcases h with hreal | ⟨hne, hreal, hnone⟩
  · refine .inl fun q hq => ?_
    rw [(plainTar_kept (ne_none_of_isDir (hreal q hq))).2]
    exact hreal q hq
  · rw [plainTar_missing hnone]
    exact .inr ⟨hne, hreal, hnone⟩

/-- A host that refuses nothing. -/
def plainHost : Host (Node FileData Unit Unit) Unit Unit := ⟨fun _ => false, "refused", (), plainTar⟩

/-- A root file system beside the host's own files. -/
def hostTree : Fs FileData Unit Unit := fun p =>
  if p ∈ [[], [utf8 "etc"], [utf8 "root"], [utf8 "root", utf8 "etc"]] then some (.dir ())
  else if p = [utf8 "etc", utf8 "hosts"] then some (.file ⟨[], 0o644⟩)
  else none

/-- The guest's first process on it. -/
def hostInit : GuestInit := ⟨"/usr/bin/init", some ⟨[], 0o755⟩⟩

/-- An image with a link at `sbin` that stays inside, and an opaque marker. -/
def linkedSbin : List (Except Unreadable (TarEntry (Node FileData Unit Unit))) :=
  [.ok ⟨⟨false, [.name (utf8 "usr")]⟩, .dir ()⟩, .ok ⟨⟨false, [.name (utf8 "sbin")]⟩, .link (utf8 "usr") ()⟩,
    .ok ⟨⟨false, [.name (utf8 "usr"), .name opaqueName]⟩, .file ⟨[], 0o644⟩⟩]

theorem prefix_of_all {o : Option Location} (h : o.all target.isPrefixOf = true) (hl : o = some l) : target <+: l := by
  subst hl
  exact isPrefixOf_iff_prefix.mp h

/-- `writes_confined_iff` at a first boot of that image. -/
theorem boot_confined : (runTasks plainHost [utf8 "root"] "root" ⟨hostTree, ∅⟩
      [.build [linkedSbin] (some hostInit) none, .resolv []]).Within [utf8 "root"] := by
  have hbefore : Disk.Within ⟨hostTree, ∅⟩ [utf8 "root"] := fun _ hq => absurd hq (Set.notMem_empty _)
  refine (writes_confined_iff "root" (plainTar_contained _) (.inl ?_) hbefore _).mpr
    ⟨?_, ⟨?_, fun _ => trivial⟩, trivial⟩
  · intro q hq
    rw [← mem_inits] at hq
    revert q
    decide +kernel
  · -- the directories of the base structure, of which two are in `var`
    refine ⟨trivial, fun _ => ⟨trivial, fun _ => ⟨trivial, fun _ => ⟨trivial, fun _ => ⟨trivial, fun _ => ⟨trivial,
      fun _ => ⟨trivial, fun _ => ⟨?_, fun _ => ⟨?_, fun _ => ⟨trivial, fun _ => ?_⟩⟩⟩⟩⟩⟩⟩⟩⟩⟩
    · exact fun _ hd _ _ => (prefix_of_all (by decide +kernel) hd).trans (prefix_append _ _)
    · exact fun _ hd _ _ => (prefix_of_all (by decide +kernel) hd).trans (prefix_append _ _)
    have hopaque : (⟨false, [.name (utf8 "usr"), .name opaqueName]⟩ : TarPath).role = .clear [.name (utf8 "usr")] := by
      decide +kernel
    -- the layer, `sbin/init` and the files in `etc`
    refine ⟨fun _ => ⟨trivial, fun _ => ⟨trivial, fun _ => ⟨?_, fun _ => trivial⟩⟩⟩, fun _ => ⟨?_, fun _ => ⟨?_, fun _ =>
      ⟨?_, fun _ => ⟨?_, fun _ => ⟨?_, fun _ => ⟨?_, fun _ => trivial⟩⟩⟩⟩⟩⟩⟩
    · simp only [MarkerInside, hopaque]
      exact fun _ hd _ hq _ _ => (prefix_of_all (by decide +kernel) hd).trans hq
    · exact fun _ _ _ hd _ _ => (prefix_of_all (by decide +kernel) hd).trans (prefix_append _ _)
    all_goals exact fun _ _ hl _ => prefix_of_all (by decide +kernel) hl
  · exact fun _ hl _ => prefix_of_all (by decide +kernel) hl

/-- An image with a link at `etc/hosts`. -/
def linkedHosts : List (Except Unreadable (TarEntry (Node FileData Unit Unit))) :=
  [.ok ⟨⟨false, [.name (utf8 "etc"), .name (utf8 "hosts")]⟩, .link (utf8 "/etc/hosts") ()⟩]

/-- Building it overwrites a file of the host. -/
theorem hosts_through_link : ¬ (runTasks plainHost [utf8 "root"] "root" ⟨hostTree, ∅⟩
      [.build [linkedHosts] none none]).Within [utf8 "root"] := by
  intro hwithin
  have hfollows : Disk.Follows ⟨hostTree, ∅⟩ (runTasks plainHost [utf8 "root"] "root" ⟨hostTree, ∅⟩
      [.build [linkedHosts] none none]) := grows_runTasks _ _
  have hchanged : (runTasks plainHost [utf8 "root"] "root" ⟨hostTree, ∅⟩ [.build [linkedHosts] none none]).fs
      [utf8 "etc", utf8 "hosts"] ≠ hostTree [utf8 "etc", utf8 "hosts"] := by decide +kernel
  have houtside : ¬ [utf8 "root"] <+: [utf8 "etc", utf8 "hosts"] := by decide +kernel
  exact hchanged (hfollows.same _ fun hmem => houtside (hwithin _ hmem))

end A3sBox.Rootfs
