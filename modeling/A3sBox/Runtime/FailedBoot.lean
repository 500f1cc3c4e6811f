import A3sBox.Runtime.PersistentBox

/-!
# A start that fails

`boot` and `cleanup_boot_failure` of `runtime/src/vm/mod.rs`, `prepare_layout` of `runtime/src/vm/layout.rs`,
`boot_from_record` of `cli/src/boot.rs` and `configure_shim_stdio` of `runtime/src/vmm/controller.rs`: a box that was
stopped is started again in the directory that it has. Whatever fails once the boot has begun, the same cleanup
removes that directory.

## The model

`BoxHome` is what the directory holds of the box. A boot is the list of its steps (`Plan.steps`). Which step fails,
what it leaves, and what cannot be removed is up to `StartHost`. Volumes, networks and the virtual machine are not in
the directory, and left out.

`started_dir`: a start in which nothing fails is the boot of `A3sBox.Runtime.PersistentBox`. `failed_start_intact`:
when the files are as they were after one that fails. `failed_start_lost` is a box that has no file left.
-/

namespace A3sBox.Layout

open Overlay Text

/-! ### The box directory -/

/-- The parts of a box directory that hold the files of the box. -/
inductive Part where
  | rootfs
  | upper
  | workspace
  | logs
  deriving DecidableEq, Repr

/-- A box directory. -/
structure BoxHome where
  /-- The root file system and the upper layer. -/
  dir : BoxDir
  workspace : Files Path File
  logs : Files Path File
  /-- Whether `snapshot restore` filled `rootfs`: its marker is there, and the directory is not empty. -/
  restored : Bool

/-- There is no such directory. -/
def BoxHome.new : BoxHome := ⟨.new, fun _ => none, fun _ => none, false⟩

/-- What is at a path of a part: a file, or a mark of the upper layer that hides one. -/
def BoxHome.entry (home : BoxHome) : Part → Path → Option (Option File)
  | .rootfs, path => home.dir.rootfs >>= fun root => (root.files path).map some
  | .upper, path => home.dir.upper.files path
  | .workspace, path => (home.workspace path).map some
  | .logs, path => (home.logs path).map some

/-- All that the box had is there as it was. -/
def BoxHome.Intact (home left : BoxHome) : Prop :=
  ∀ part path, home.entry part path ≠ none → left.entry part path = home.entry part path

/-- How a removal of directories goes. -/
inductive Removal where
  | done
  /-- It stops with an error: what is still there, and whether that is a restored root file system as before. -/
  | stopped (stays : Part → Path → Bool) (restored : Bool)

/-- Whether a removal leaves a path. -/
def Removal.stays : Removal → Part → Path → Bool
  | .done, _, _ => false
  | .stopped stays _, part, path => stays part path

/-- Some of the files. -/
def filesThat {F : Type} (stays : Path → Bool) (files : Path → Option F) : Path → Option F :=
  fun path => if stays path then files path else none

/-- Remove parts of a box directory. -/
def BoxHome.remove (home : BoxHome) (parts : List Part) : Removal → BoxHome
  | .done =>
    { dir :=
        { rootfs := if parts.contains .rootfs then none else home.dir.rootfs
          upper := if parts.contains .upper then BoxDir.new.upper else home.dir.upper }
      workspace := if parts.contains .workspace then fun _ => none else home.workspace
      logs := if parts.contains .logs then fun _ => none else home.logs
      restored := home.restored && !parts.contains .rootfs }
  | .stopped stays restored =>
    let left part path := !parts.contains part || stays part path
    { dir :=
        { rootfs := home.dir.rootfs.map fun root => { root with files := filesThat (left .rootfs) root.files }
          upper := { home.dir.upper with files := filesThat (left .upper) home.dir.upper.files } }
      workspace := filesThat (left .workspace) home.workspace
      logs := filesThat (left .logs) home.logs
      restored := home.restored && restored }

/-! ### The steps of a boot -/

/-- The states of a virtual machine manager. -/
inductive BoxState where
  | created
  | ready
  | busy
  | compacting
  | stopped
  deriving DecidableEq, Repr

/-- The steps of a boot that may fail. -/
inductive Step where
  | createSocketDir
  | createLogsDir
  | createWorkspace
  | resolveWorkspace
  | openImageStore
  | pull
  | tryRootfsCachePath
  /-- Make a root file system from a cached one. -/
  | prepare (cached : Root)
  | refreshGuestInit (file : File)
  /-- Write the guest's first process to a restored root file system; a failure is only logged. -/
  | tryGuestInit (file : File) (written : Bool)
  | build (image : Image) (guestInit : Option File)
  | imageConfig
  /-- Write the configuration of the trusted execution environment. -/
  | generateTeeConfig
  | writeResolv (file : File)
  | writeHostname (file : File)
  /-- Write the hosts that the configuration adds, if there are any. -/
  | writeStandaloneHosts (file : Option File)
  | buildInstanceSpec
  | setupBridgeNetwork
  | writeHosts (file : File)
  /-- Find the program that runs virtual machines. -/
  | findShim
  | newController
  /-- Start the virtual machine, with the log files that can be opened. -/
  | startVm (opens : Path → Bool)
  | waitForVmRunning
  | waitForExecReady

/-- What a boot is given. -/
structure Plan where
  provider : Provider
  /-- What the lookup in the cache finds, or the image. -/
  source : Source
  /-- The guest's first process, if it is found. -/
  guestInit : Option File
  /-- Whether it can be written to a restored root file system. -/
  refreshes : Bool
  resolv : File
  hostname : Option File
  hosts : Option File
  /-- The hosts of the network, if the box is on one. -/
  peers : Option File
  /-- Whether the manager has a controller already. -/
  injected : Bool
  /-- Which log files the controller opens; a failure is only logged. -/
  opensLog : Path → Bool

variable (plan : Plan)

/-- The steps that make the root file system from what the lookup in the cache gave. -/
def Plan.rootfsSteps : List Step :=
  match plan.source with
  | .hit cached => .prepare cached :: (plan.guestInit.toList.map .refreshGuestInit ++ [.imageConfig])
  | .miss image => [.build image plan.guestInit, .imageConfig]

/-- The steps of the layout. A restored root file system is booted from as it is. -/
def Plan.layoutSteps (restored : Bool) : List Step :=
  [.createSocketDir, .createLogsDir, .createWorkspace, .resolveWorkspace] ++
    (if restored then plan.guestInit.toList.map fun file => .tryGuestInit file plan.refreshes
      else [.openImageStore, .pull, .tryRootfsCachePath] ++ plan.rootfsSteps) ++ [.generateTeeConfig]

/-- The steps of a boot. -/
def Plan.steps (restored : Bool) : List Step :=
  plan.layoutSteps restored ++ [.writeResolv plan.resolv] ++ plan.hostname.toList.map .writeHostname ++
    [.writeStandaloneHosts plan.hosts, .buildInstanceSpec] ++
    (plan.peers.toList.flatMap fun file => [.setupBridgeNetwork, .writeHosts file]) ++
    (if plan.injected then [] else [.findShim, .newController]) ++
    [.startVm plan.opensLog, .waitForVmRunning, .waitForExecReady]

/-- A box directory, and which part of it the box boots from. -/
structure Booting where
  home : BoxHome
  mount : Mount

/-- Write a file of the box. -/
def Booting.write (s : Booting) (path : Path) (file : File) : Booting :=
  { s with home := { s.home with dir := s.mount.write s.home.dir path file } }

/-- The log files of the program that runs the virtual machine. -/
def shimLogs : List Path := [["shim.stdout.log"], ["shim.stderr.log"]]

/-- The log files are emptied when they are opened. -/
def configureShimStdio (opens : Path → Bool) (logs : Files Path File) : Files Path File :=
  fun path => if shimLogs.contains path && opens path then some [] else logs path

variable (provider : Provider)

/-- What a step does to the box directory, if the extraction of the image does not fail. -/
def Step.effect : Step → Booting → Option Booting
  | .prepare cached, s =>
    let (dir, mount) := provider.prepare s.home.dir cached
    some ⟨{ s.home with dir := dir }, mount⟩
  | .build image guestInit, s =>
    (image.build guestInit (s.home.dir.rootfs.getD .empty)).map fun root =>
      ⟨{ s.home with dir := { s.home.dir with rootfs := some root } }, .direct⟩
  | .refreshGuestInit file, s => some (s.write initPath file)
  | .tryGuestInit file written, s => some (if written then s.write initPath file else s)
  | .writeResolv file, s => some (s.write resolvPath file)
  | .writeHostname file, s => some (s.write hostnamePath file)
  | .writeStandaloneHosts (some file), s => some (s.write hostsPath file)
  | .writeHosts file, s => some (s.write hostsPath file)
  | .startVm opens, s => some { s with home := { s.home with logs := configureShimStdio opens s.home.logs } }
  | _, s => some s

/-- A step that fails. -/
structure Failure where
  error : BoxError
  left : BoxHome → BoxHome

/-- What the rest of the system does at a start. -/
structure StartHost where
  /-- Why no configuration can be made from the record, if none can. -/
  configFault : Option String
  metricsFault : Option String
  /-- Why the network or the volumes cannot be attached, if they cannot. -/
  resourcesFault : Option String
  fails : Step → Option Failure
  extraction : Failure
  providerRemoval : Removal
  /-- How the removal of the box directory goes. -/
  removal : Removal

variable (host : StartHost)

/-- How a step fails, if it does. -/
def StartHost.fault : Step → Option Failure
  | .tryGuestInit _ _ => none
  | step => host.fails step

/-- One step of a boot; an error comes with what is then in the box directory. -/
def runStep (host : StartHost) (s : Booting) (step : Step) : Except (BoxError × BoxHome) Booting :=
  match host.fault step with
  | some failure => .error (failure.error, failure.left s.home)
  | none =>
    match step.effect provider s with
    | some s => .ok s
    | none => .error (host.extraction.error, host.extraction.left s.home)

/-- The steps of a boot. -/
def runSteps (home : BoxHome) : Except (BoxError × BoxHome) Booting :=
  (plan.steps home.restored).foldlM (runStep plan.provider host) ⟨home, .direct⟩

/-- The part of the box directory that a provider made. -/
def Provider.parts : Provider → List Part
  | .copy => [.rootfs]
  | .overlay => [.upper]

/-- Remove the box directory. Failures are only logged. -/
def cleanupBoxDir (host : StartHost) (home : BoxHome) : BoxHome :=
  (home.remove provider.parts host.providerRemoval).remove [.rootfs, .upper, .workspace, .logs] host.removal

/-- Boot a box in its directory. -/
def VmManager.boot (state : BoxState) (plan : Plan) (host : StartHost) (home : BoxHome) :
    Except BoxError Mount × BoxHome :=
  if state ≠ .created then (.error (.stateError "VM already booted"), home)
  else
    match runSteps plan host home with
    | .ok s => (.ok s.mount, s.home)
    | .error (e, left) => (.error e, cleanupBoxDir plan.provider host left)

/-- Start a box from its record. -/
def bootFromRecord (home : BoxHome) : Except String Mount × BoxHome :=
  match host.configFault with
  | some why => (.error why, home)
  | none =>
    match host.metricsFault with
    | some why => (.error why, home)
    | none =>
      match host.resourcesFault with
      | some why => (.error why, home)
      | none =>
        let (result, home) := VmManager.boot .created plan host home
        (result.mapError BoxError.toText, home)

/-! ### A start in which nothing fails -/

/-- The boot that a plan describes, without the hosts of a network. -/
def Plan.toBoot : Boot :=
  ⟨plan.source, plan.guestInit, plan.resolv, plan.hostname, plan.hosts, false⟩

/-- The effects of steps, one after another. -/
def effects (s : Booting) (steps : List Step) : Option Booting :=
  steps.foldlM (fun s step => step.effect provider s) s

variable (provider : Provider)

@[simp] theorem effects_nil (s : Booting) : effects provider s [] = some s := rfl

@[simp] theorem effects_cons (s : Booting) (step : Step) (steps : List Step) :
    effects provider s (step :: steps) = (step.effect provider s).bind fun s => effects provider s steps :=
  List.foldlM_cons ..

@[simp] theorem effects_append (s : Booting) (steps steps' : List Step) :
    effects provider s (steps ++ steps') = (effects provider s steps).bind fun s => effects provider s steps' :=
  List.foldlM_append ..

variable {host : StartHost} {plan : Plan} {home : BoxHome}

/-- How a step fails: as the rest of the system makes it fail, or because the image cannot be extracted. -/
def StartHost.failure (host : StartHost) (provider : Provider) (s : Booting) (step : Step) : Option Failure :=
  match host.fault step with
  | some failure => some failure
  | none => if (step.effect provider s).isNone then some host.extraction else none

theorem runStep_cases (host) (s : Booting) (step : Step) :
    (∃ failure, host.failure provider s step = some failure ∧
        runStep provider host s step = .error (failure.error, failure.left s.home)) ∨
      host.failure provider s step = none ∧
        ∃ s', step.effect provider s = some s' ∧ runStep provider host s step = .ok s' := by
  unfold StartHost.failure runStep
  rcases host.fault step with _ | failure
  · rcases heffect : step.effect provider s with _ | s'
    · exact .inl ⟨_, rfl, rfl⟩
    · exact .inr ⟨rfl, s', rfl, rfl⟩
  · exact .inl ⟨failure, rfl, rfl⟩

theorem effects_of_ok {provider steps s s'}
    (h : steps.foldlM (runStep provider host) s = .ok s') : effects provider s steps = some s' := by
  induction steps generalizing s with
  | nil =>
    cases h
    rfl
  | cons step _ ih =>
    obtain ⟨next, hstep, hrest⟩ := except_bind_ok h
    rcases runStep_cases provider host s step with ⟨_, -, herror⟩ | ⟨-, _, heffect, hok⟩
    · cases herror.symm.trans hstep
    · cases hok.symm.trans hstep
      rw [effects_cons, heffect]
      exact ih hrest

theorem effects_layoutSteps (plan : Plan) (home : BoxHome) :
    effects plan.provider ⟨home, .direct⟩ (plan.layoutSteps false) =
      (plan.source.prepare plan.provider plan.guestInit home.dir).map fun prepared =>
        ⟨{ home with dir := prepared.1 }, prepared.2⟩ := by
  rcases hsource : plan.source with _ | image
  · rcases hinit : plan.guestInit with _ | _
    · simp [Plan.layoutSteps, Plan.rootfsSteps, hsource, hinit, Step.effect, Source.prepare, prepareCached]
    · simp [Plan.layoutSteps, Plan.rootfsSteps, hsource, hinit, Step.effect, Source.prepare, prepareCached,
        Booting.write]
  · rcases hbuild : image.build plan.guestInit (home.dir.rootfs.getD .empty) with _ | _
    · simp [Plan.layoutSteps, Plan.rootfsSteps, hsource, hbuild, Step.effect, Source.prepare]
    · simp [Plan.layoutSteps, Plan.rootfsSteps, hsource, hbuild, Step.effect, Source.prepare]

/-- Files that are written in a box directory, whose logs are then opened. -/
def Booting.writeAll (s : Booting) (writes : List (Path × File)) (opens : Path → Bool) : Booting :=
  { s with
    home := { s.home with
      dir := s.mount.writeAll s.home.dir writes
      logs := configureShimStdio opens s.home.logs } }

/-- The steps after the layout only write files and open the logs. -/
theorem effects_steps (plan : Plan) (s : Booting) (restored : Bool) : effects plan.provider s (plan.steps restored) =
      (effects plan.provider s (plan.layoutSteps restored)).map fun s =>
        s.writeAll (plan.toBoot.config ++ plan.peers.toList.map fun file => (hostsPath, file)) plan.opensLog := by
  rcases hlayout : effects plan.provider s (plan.layoutSteps restored) with _ | _
  · simp [Plan.steps, hlayout]
  · rcases hhostname : plan.hostname with _ | _ <;> rcases hhosts : plan.hosts with _ | _ <;>
      rcases hpeers : plan.peers with _ | _ <;> rcases hinjected : plan.injected with _ | _ <;>
      simp [Plan.steps, hlayout, hhostname, hhosts, hpeers, hinjected, Step.effect, Booting.write, Booting.writeAll,
        Mount.writeAll, Plan.toBoot, Boot.config]

/-- The start fails before its boot begins. -/
def StartHost.FailsEarly (host : StartHost) : Prop :=
  host.configFault ≠ none ∨ host.metricsFault ≠ none ∨ host.resourcesFault ≠ none

theorem bootFromRecord_cases (plan) (host) (home) :
    (host.FailsEarly ∧ ∃ why, bootFromRecord plan host home = (.error why, home)) ∨
      ¬ host.FailsEarly ∧
        ((∃ s, runSteps plan host home = .ok s ∧ bootFromRecord plan host home = (.ok s.mount, s.home)) ∨
          ∃ e left, runSteps plan host home = .error (e, left) ∧
            bootFromRecord plan host home = (.error e.toText, cleanupBoxDir plan.provider host left)) := by
  unfold StartHost.FailsEarly bootFromRecord
  rcases hconfig : host.configFault with _ | _
  · rcases hmetrics : host.metricsFault with _ | _
    · rcases hresources : host.resourcesFault with _ | _
      · right
        rcases hrun : runSteps plan host home with ⟨_, left⟩ | _
        · simp [VmManager.boot, hrun, Except.mapError]
        · simp [VmManager.boot, hrun, Except.mapError]
      · left
        simp
    · left
      simp
  · left
    simp

variable {mount : Mount}

/-- A start that succeeds is a boot in which no step fails. -/
theorem bootFromRecord_ok (h : (bootFromRecord plan host home).1 = .ok mount) :
    runSteps plan host home = .ok ⟨(bootFromRecord plan host home).2, mount⟩ := by
  rcases bootFromRecord_cases plan host home with ⟨-, _, heq⟩ | ⟨-, ⟨_, hrun, heq⟩ | ⟨_, _, -, heq⟩⟩
  · rw [heq] at h
    cases h
  · rw [heq] at h ⊢
    cases h
    exact hrun
  · rw [heq] at h
    cases h

@[simp] theorem filesThat_apply {F : Type} (stays : Path → Bool) (files : Path → Option F) (path : Path) :
    filesThat stays files path = if stays path then files path else none := rfl

theorem entry_remove (home : BoxHome) (parts : List Part) (removal : Removal) (part : Part) (path : Path) :
    (home.remove parts removal).entry part path =
      if parts.contains part = true ∧ removal.stays part path = false then none else home.entry part path := by
  cases removal with
  | done =>
    by_cases hpart : parts.contains part = true
    · cases part <;> simp only [BoxHome.remove, hpart] <;> rfl
    · rw [if_neg fun h => hpart h.1]
      cases part <;> simp only [BoxHome.remove, BoxHome.entry, hpart, Bool.false_eq_true, if_false]
  | stopped stays restored =>
    by_cases hleft : parts.contains part = true ∧ (Removal.stopped stays restored).stays part path = false
    · rw [if_pos hleft]
      obtain ⟨hcontains, hgone⟩ : parts.contains part = true ∧ stays part path = false := hleft
      cases part <;> simp [BoxHome.remove, BoxHome.entry, -List.contains_eq_mem, hcontains, hgone]
    · rw [if_neg hleft]
      have hstays : (!parts.contains part || stays part path) = true := by
        cases hcontains : parts.contains part with
        | false => rfl
        | true => exact Bool.eq_true_of_not_eq_false fun hstays => hleft ⟨hcontains, hstays⟩
      cases part <;> simp only [BoxHome.remove, BoxHome.entry, Option.bind_eq_bind, Option.bind_map, Function.comp_def,
        filesThat_apply, hstays, if_true]

/-- The system does not remove what is at a path. -/
def StartHost.Refuses (host : StartHost) (provider : Provider) (part : Part) (path : Path) : Prop :=
  (provider.parts.contains part = true → host.providerRemoval.stays part path = true) ∧
    host.removal.stays part path = true

/-- What the cleanup leaves: what the system does not remove. -/
theorem entry_cleanupBoxDir (host : StartHost) (home : BoxHome) (part : Part) (path : Path) :
    (host.Refuses provider part path → (cleanupBoxDir provider host home).entry part path = home.entry part path) ∧
      (¬ host.Refuses provider part path → (cleanupBoxDir provider host home).entry part path = none) := by
  have hpart : [Part.rootfs, .upper, .workspace, .logs].contains part = true := by cases part <;> rfl
  unfold cleanupBoxDir StartHost.Refuses
  rw [entry_remove, entry_remove]
  simp only [hpart]
  constructor
  · rintro ⟨hprovider, hstays⟩
    rw [hstays, if_neg (by decide), if_neg fun h => by simp [hprovider h.1] at h]
  · intro hnot
    cases hstays : host.removal.stays part path with
    | false => rfl
    | true =>
      rw [if_neg (by decide), if_pos]
      by_contra hne
      exact hnot ⟨fun hcontains => Bool.eq_true_of_not_eq_false fun h => hne ⟨hcontains, h⟩, hstays⟩

/-- Steps go as far as one that fails: `s` is what those before it make of a box directory. -/
inductive FailsAt (host : StartHost) (provider : Provider) : Booting → List Step → Booting → Failure → Prop where
  | here {s step steps failure} (fails : host.failure provider s step = some failure) :
      FailsAt host provider s (step :: steps) s failure
  | later {s step next steps last failure} (passes : host.failure provider s step = none)
      (effect : step.effect provider s = some next) (rest : FailsAt host provider next steps last failure) :
      FailsAt host provider s (step :: steps) last failure

/-- The steps of a boot end with an error exactly if one of them fails, and that one says what is left. -/
theorem foldlM_runStep_error_iff {steps s e left} :
    steps.foldlM (runStep provider host) s = .error (e, left) ↔
      ∃ last failure, FailsAt host provider s steps last failure ∧ e = failure.error ∧
        left = failure.left last.home := by
  constructor
  · intro h
    induction steps generalizing s with
    | nil => cases h
    | cons step steps ih =>
      rw [List.foldlM_cons] at h
      rcases runStep_cases provider host s step with ⟨failure, hfails, hstep⟩ | ⟨hpasses, next, heffect, hstep⟩
      · rw [hstep] at h
        cases h
        exact ⟨s, failure, .here hfails, rfl, rfl⟩
      · rw [hstep] at h
        obtain ⟨last, failure, hrest, heq⟩ := ih h
        exact ⟨last, failure, .later hpasses heffect hrest, heq⟩
  · rintro ⟨last, failure, hfails, rfl, rfl⟩
    induction hfails with
    | @here s step _ _ hfails =>
      rw [List.foldlM_cons]
      rcases runStep_cases provider host s step with ⟨_, hfails', hstep⟩ | ⟨hpasses, -⟩
      · cases hfails.symm.trans hfails'
        rw [hstep]
        rfl
      · cases hfails.symm.trans hpasses
    | @later s step _ _ _ _ hpasses heffect _ ih =>
      rw [List.foldlM_cons]
      rcases runStep_cases provider host s step with ⟨_, hfails, -⟩ | ⟨-, _, heffect', hstep⟩
      · cases hpasses.symm.trans hfails
      · cases heffect.symm.trans heffect'
        rw [hstep]
        exact ih

/-- The steps up to the one that fails leave what is at a path, and the system does not remove it. -/
def Spared (plan : Plan) (host : StartHost) (home : BoxHome) : Prop :=
  ∀ last failure, FailsAt host plan.provider ⟨home, .direct⟩ (plan.steps home.restored) last failure →
    ∀ part path, home.entry part path ≠ none →
      (failure.left last.home).entry part path = home.entry part path ∧ host.Refuses plan.provider part path

theorem intact_cleanup_iff {left e} (hrun : runSteps plan host home = .error (e, left)) :
    home.Intact (cleanupBoxDir plan.provider host left) ↔ Spared plan host home := by
  -- the steps fail at one place only, so that what is left there is `left`
  have hspared : Spared plan host home ↔ ∀ part path, home.entry part path ≠ none →
      left.entry part path = home.entry part path ∧ host.Refuses plan.provider part path := by
    constructor
    · intro h
      obtain ⟨last, failure, hfails, -, rfl⟩ := (foldlM_runStep_error_iff _).mp hrun
      exact h last failure hfails
    · intro h last failure hfails
      have herror := (foldlM_runStep_error_iff _).mpr ⟨last, failure, hfails, rfl, rfl⟩
      obtain ⟨-, hleft⟩ := Prod.mk.inj (Except.error.inj (hrun.symm.trans herror))
      rwa [← hleft]
  rw [hspared]
  refine forall_congr' fun part => forall_congr' fun path => imp_congr_right fun hentry => ?_
  obtain ⟨hkept, hgone⟩ := entry_cleanupBoxDir plan.provider host left part path
  by_cases hrefuses : host.Refuses plan.provider part path
  · rw [hkept hrefuses, and_iff_left hrefuses]
  · rw [hgone hrefuses]
    exact ⟨fun h => absurd h.symm hentry, fun h => absurd h.2 hrefuses⟩

/-- **A start that fails**: what the box had is there as it was if and only if the start failed before the boot
began, or no step before the failure changed it and the system does not remove it. -/
theorem failed_start_intact (plan : Plan) (host : StartHost) (home : BoxHome) (why : String)
    (h : (bootFromRecord plan host home).1 = .error why) :
    home.Intact (bootFromRecord plan host home).2 ↔ host.FailsEarly ∨ Spared plan host home := by
  rcases bootFromRecord_cases plan host home with ⟨hearly, _, heq⟩ | ⟨hearly, ⟨_, -, heq⟩ | ⟨_, _, hrun, heq⟩⟩
  · rw [heq]
    exact ⟨fun _ => .inl hearly, fun _ part path _ => rfl⟩
  · rw [heq] at h
    cases h
  · rw [heq, or_iff_right hearly]
    exact intact_cleanup_iff hrun

/-! ### A box that ran and was stopped -/

/-- A boot from a cached root file system. -/
def plainPlan : Plan := ⟨.overlay, .hit programRoot, none, true, [], none, none, none, false, fun _ => true⟩

/-- A start in which nothing fails, and all removals go through. -/
def quietHost : StartHost := ⟨none, none, none, fun _ => none, ⟨.buildError "extraction", id⟩, .done, .done⟩

/-- A box that ran, wrote a file, had one in its workspace and a log, and was stopped to be started again. -/
def stoppedBox : BoxHome :=
  match bootFromRecord plainPlan quietHost .new with
  | (.ok mount, home) =>
    { home with
      dir := plainPlan.provider.cleanup (mount.change home.dir [(["data"], some [5])]) true
      workspace := Function.update home.workspace ["notes"] (some [6])
      logs := Function.update (Function.update home.logs ["console.log"] (some [7])) ["shim.stderr.log"] (some [8]) }
  | (.error _, home) => home

/-- A start in which the virtual machine cannot be started. -/
def noVmHost : StartHost :=
  { quietHost with
    fails := fun
      | .startVm _ => some ⟨.boxBootError "Failed to spawn shim" none, id⟩
      | _ => none }

/-- The network of the box is gone, and its files are as they were. -/
theorem unattached_start_intact :
    (bootFromRecord plainPlan { quietHost with resourcesFault := some "network 'app' not found" } stoppedBox).1 =
        .error "network 'app' not found" ∧
      stoppedBox.Intact
        (bootFromRecord plainPlan { quietHost with resourcesFault := some "network 'app' not found" } stoppedBox).2 :=
  ⟨rfl, (failed_start_intact plainPlan { quietHost with resourcesFault := some "network 'app' not found" } stoppedBox
    "network 'app' not found" rfl).mpr (.inl (.inr (.inr nofun)))⟩

/-- The virtual machine cannot be started again, and what the box wrote, its workspace and its log are gone. -/
theorem failed_start_lost :
    stoppedBox.entry .upper ["data"] = some (some [5]) ∧ stoppedBox.entry .workspace ["notes"] = some (some [6]) ∧
      stoppedBox.entry .logs ["console.log"] = some (some [7]) ∧
      (bootFromRecord plainPlan noVmHost stoppedBox).1 = .error "VM boot failed: Failed to spawn shim" ∧
      (bootFromRecord plainPlan noVmHost stoppedBox).2.entry .upper ["data"] = none ∧
      (bootFromRecord plainPlan noVmHost stoppedBox).2.entry .workspace ["notes"] = none ∧
      (bootFromRecord plainPlan noVmHost stoppedBox).2.entry .logs ["console.log"] = none := by
  refine ⟨?_, ?_, ?_, ?_, ?_, ?_, ?_⟩ <;> rfl

end A3sBox.Layout
