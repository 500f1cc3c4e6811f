import A3sBox.Cli.Run
import A3sBox.Core.ComposeService
import A3sBox.Library.Binary64

/-!
# Starting a service of a compose file

`runtime/src/compose.rs` and the loop of `cli/src/commands/compose.rs`: `compose up` makes a configuration of each
service, boots a machine with it and stores a record, of which a configuration is made when the box is started again.
For the record the memory is read again, by another parser, and ports, command and entrypoint are taken from the
service.

`compose_restart_preserves_iff`: the services whose configuration stays the same; `fractionalService_changes` is
another. `env_merged`: how the environment of a service is merged.
-/

namespace A3sBox.Compose

open Text Slices Boxes Options Binary64 List Option

/-! ### Sizes -/

/-- A size, as it is written. -/
inductive WrittenSize where
  /-- A number with or without a fraction, and how many MB its unit is. -/
  | scaled (numStr : List Char) (multiplier : ℕ)
  /-- A whole number, and how many of its unit are one MB. -/
  | whole (numStr : List Char) (perMb : ℕ)
  deriving DecidableEq, Repr

/-- How a size is written; without a unit it is in bytes. -/
def writtenSize (s : List Char) : WrittenSize :=
  let endsWith := fun ending : String => ending.toList.isSuffixOf s
  if endsWith "gb" || endsWith "g" then .scaled (trimEndMatches "g" (trimEndMatches "gb" s)) 1024
  else if endsWith "mb" || endsWith "m" then .scaled (trimEndMatches "m" (trimEndMatches "mb" s)) 1
  else if endsWith "kb" || endsWith "k" then .whole (trimEndMatches "k" (trimEndMatches "kb" s)) 1024
  else .whole s (1024 * 1024)

/-- The size in megabytes. -/
def WrittenSize.mb : WrittenSize → Option UInt32
  | .scaled numStr multiplier =>
    (Binary64.parse numStr).map fun num =>
      UInt32.ofNat ((num.mul (.finite multiplier)).toUnsigned (2 ^ 32 - 1))
  | .whole numStr perMb => (parseInt (2 ^ 64 - 1) numStr).toOption.map fun v => UInt32.ofNat ((v + (perMb - 1)) / perMb)

variable (lib : Lib)

/-- The memory of a service, in MB. -/
def parseComposeMemory (s : String) : Except BoxError UInt32 :=
  let s := lib.toLowercase (trim s.toList)
  let text := String.ofList s
  match (writtenSize s).mb with
  | none => .error (.configError s!"Invalid memory value: {text}")
  | some mb => .ok mb

/-! ### The environment -/

/-- The path of a file that a compose file names. -/
def resolveComposePath (baseDir path : String) : String := joinPath baseDir path

/-- The variables of a file, in their order. -/
def envFilePairs (path : String) : Except String (List (String × String)) :=
  match lib.readToString path with
  | .error e => .error s!"Failed to read env file '{path}': {e}"
  | .ok content => .ok ((Build.Parser.lines content.toList).filterMap parseEnvLine)

/-- A variable is given its value where it is, or added at the end. -/
def mergeEnvPair (base : List (String × String)) (key value : String) : List (String × String) :=
  match base with
  | [] => [(key, value)]
  | (existing, old) :: base =>
    if existing = key then (existing, value) :: base else (existing, old) :: mergeEnvPair base key value

/-- Variables are given their values, one after the other. -/
def mergeEnvPairs (base overrides : List (String × String)) : List (String × String) :=
  overrides.foldl (fun base var => mergeEnvPair base var.1 var.2) base

variable (project : Project) (svc : Service)

/-- The environment of a service: its files in their order, then what is given directly. -/
def Project.serviceEnv : Except BoxError (List (String × String)) := do
  let env ← svc.envFile.toVec.foldlM (fun env file => do
    let path := resolveComposePath project.baseDir file
    let entries ← (envFilePairs lib path).mapError fun e => .configError s!"Invalid env_file '{path}': {e}"
    Except.ok (mergeEnvPairs env entries)) []
  .ok (mergeEnvPairs env svc.environment.toPairs)

/-! ### From a service to a configuration -/

/-- The name of the network that services are in which name none. -/
def Project.defaultNetworkName : String := s!"{project.name}_default"

/-- The network of a service: the first it names, or else the default one. -/
def Project.networkMode (defaultNetwork : Option String) : NetworkMode :=
  match svc.networks.names, defaultNetwork with
  | net :: _, _ => .bridge s!"{project.name}_{net}"
  | [], some defaultNet => .bridge defaultNet
  | [], none => .tsi

/-- The memory of a service, in MB; the default is 512. -/
def serviceMemory : Option String → Except BoxError UInt32
  | some memStr => parseComposeMemory lib memStr
  | none => .ok 512

/-- The configuration of a service. -/
def Service.boxConfig (image : String) (memoryMb : UInt32) (extraEnv : List (String × String))
    (portMap : List String) (network : NetworkMode) : BoxConfig where
  image
  resources := { vcpus := svc.cpus.getD 2, memoryMb }
  cmd := (svc.command.map StringOrList.toVec).getD []
  entrypointOverride := (svc.entrypoint.map StringOrList.toVec).filter fun v => !v.isEmpty
  workdir := svc.workingDir
  hostname := svc.hostname
  volumes := svc.volumes
  extraEnv
  portMap
  dns := svc.dns.toVec
  addHosts := svc.extraHosts.toVec
  network
  tmpfs := svc.tmpfs.toVec
  capAdd := svc.capAdd
  capDrop := svc.capDrop
  privileged := svc.privileged

/-- The configuration of a service of the project. -/
def Project.buildBoxConfig (serviceName : String) (defaultNetwork : Option String) : Except BoxError BoxConfig :=
  match project.file.services.lookup serviceName with
  | none => .error (.configError s!"Service '{serviceName}' not found in compose config")
  | some svc =>
    match svc.image with
    | none => .error (.configError s!"Service '{serviceName}' has no image")
    | some image => do
      let memoryMb ← serviceMemory lib svc.memLimit
      let extraEnv ← project.serviceEnv lib svc
      (validateHostnameOption "Invalid hostname" svc.hostname).mapError BoxError.configError
      let _ ← (parseAddHostEntries svc.extraHosts.toVec).mapError fun e =>
        BoxError.configError s!"Invalid extra_hosts entry: {e}"
      let portMap ← (Port.normalizePortMaps svc.ports).mapError fun e =>
        BoxError.configError s!"Service '{serviceName}' has invalid port mapping: {e}"
      .ok (svc.boxConfig image memoryMb extraEnv portMap (project.networkMode svc defaultNetwork))

/-! ### Health -/

variable (profile : Profile)

/-- Read a duration. -/
def parseDurationSecs (s : String) : Except (Fault String) (Option UInt64) :=
  let s := lib.toLowercase (trim s.toList)
  let endsWith := fun ending : String => ending.toList.isSuffixOf s
  let read := fun n : List Char => (parseInt (2 ^ 64 - 1) n).toOption
  let times := fun (n : List Char) (secs : ℕ) =>
    match read n with
    | none => .ok none
    | some n => (mulBits profile 64 n secs).map fun secs => some (UInt64.ofNat secs)
  if endsWith "ms" then .ok ((read (trimEndMatches "ms" s)).map fun n => UInt64.ofNat ((n + 999) / 1000))
  else if endsWith "s" then .ok ((read (trimEndMatches "s" s)).map UInt64.ofNat)
  else if endsWith "m" then times (trimEndMatches "m" s) 60
  else if endsWith "h" then times (trimEndMatches "h" s) 3600
  else .ok ((read s).map UInt64.ofNat)

/-- A duration that may be given. -/
def durationOr (default : UInt64) : Option String → Except (Fault String) UInt64
  | none => .ok default
  | some s => (parseDurationSecs lib profile s).map fun secs => secs.getD default

/-- The command of a health check. -/
def healthcheckCommand : StringOrList → Option (List String)
  | .empty => none
  | .single command =>
    let command := trim command.toList
    if command = [] ∨ eqIgnoreAsciiCase command "NONE".toList then none
    else some ["sh", "-c", String.ofList command]
  | .list items => healthCheckCommand items

/-- The health check of a service. -/
def Service.healthCheck (svc : Service) : Except (Fault String) (Option HealthCheck) :=
  match svc.healthcheck with
  | none => .ok none
  | some hc =>
    if hc.disable then .ok none
    else
      match healthcheckCommand hc.test with
      | none => .ok none
      | some cmd => do
        let intervalSecs ← durationOr lib profile 30 hc.interval
        let timeoutSecs ← durationOr lib profile 30 hc.timeout
        let startPeriodSecs ← durationOr lib profile 0 hc.startPeriod
        .ok (some { cmd, intervalSecs, timeoutSecs, retries := hc.retries.getD 3, startPeriodSecs })

/-- Whether a service says that it has no health check. -/
def Service.healthcheckDisabled : Bool :=
  let isNone := fun s : List Char => eqIgnoreAsciiCase s "NONE".toList
  svc.healthcheck.any fun hc =>
    hc.disable ||
      match hc.test with
      | .list items => items.head?.any fun value => isNone value.toList
      | .single value => isNone (trim value.toList)
      | .empty => false

/-! ### The record -/

/-- The restart policy of a service. -/
def serviceRestartPolicy (serviceName : String) (svc : Service) : Except String (String × UInt32) :=
  match svc.restart with
  | none => .ok ("no", 0)
  | some restart =>
    (parseRestartPolicy restart).mapError fun error =>
      s!"Service '{serviceName}' has invalid restart policy: {error}"

/-- The memory that is stored: what cannot be read is taken as the default. -/
def recordMemory : Option String → Except (Fault String) UInt32
  | none => .ok 512
  | some m =>
    match parseMemory lib profile m with
    | .ok mb => .ok mb
    | .error (.error _) => .ok 512
    | .error .panic => .error .panic

/-- The label with the project. -/
def labelProject : String := "com.a3s.compose.project"

/-- The label with the service. -/
def labelService : String := "com.a3s.compose.service"

/-- What is stored about a service that was booted with a configuration. -/
def serviceRecord (host : Host) (project : Project) (svcName : String) (svc : Service)
    (config : BoxConfig) (volumeNames : List String) (booted : Booted) : Except (Fault String) BoxRecord := do
  let serviceHealthCheck ← svc.healthCheck host.lib profile
  let healthCheck :=
    if svc.healthcheckDisabled then none
    else serviceHealthCheck.orElse fun _ => booted.imageHealthCheck.bind healthCheckFromOci
  let (restartPolicy, maxRestartCount) ← returned (serviceRestartPolicy svcName svc)
  let memoryMb ← recordMemory host.lib profile svc.memLimit
  let boxDir := joinPath (joinPath host.home "boxes") host.boxId
  .ok
    { id := host.boxId
      shortId := makeShortId host.boxId
      name := s!"{project.name}-{svcName}"
      image := config.image
      status := "running"
      pid := booted.pid
      cpus := svc.cpus.getD 2
      memoryMb
      volumes := config.volumes
      env := collect config.extraEnv
      cmd := (svc.command.map StringOrList.toVec).getD []
      entrypoint := svc.entrypoint.map StringOrList.toVec
      boxDir
      execSocketPath := booted.execSocketPath.getD (joinPath (joinPath boxDir "sockets") "exec.sock")
      consoleLog := joinPath (joinPath boxDir "logs") "console.log"
      createdAt := host.createdAt
      startedAt := some host.startedAt
      autoRemove := false
      hostname := config.hostname
      user := none
      workdir := svc.workingDir
      restartPolicy
      portMap := svc.ports
      labels := (svc.labels.toMap.insert labelProject project.name).insert labelService svcName
      stoppedByUser := false
      restartCount := 0
      maxRestartCount
      exitCode := none
      healthCheck
      healthcheckDisabled := svc.healthcheckDisabled
      healthStatus := if healthCheck.isSome then "starting" else "none"
      healthRetries := 0
      healthLastCheck := none
      networkMode := config.network
      networkName := match config.network with
        | .bridge network => some network
        | _ => none
      volumeNames
      tmpfs := svc.tmpfs.toVec
      anonymousVolumes := booted.anonymousVolumes
      resourceLimits := {}
      logConfig := ⟨.jsonFile, ∅⟩
      addHost := config.addHosts
      platform := none
      init := false
      readOnly := false
      capAdd := svc.capAdd
      capDrop := svc.capDrop
      securityOpt := []
      privileged := svc.privileged
      devices := []
      gpus := none
      shmSize := none
      stopSignal := booted.imageStopSignal
      stopTimeout := none
      oomKillDisable := false
      oomScoreAdj := none }

/-- The first network a configuration is connected to. -/
def connectNetwork (host : Host) : NetworkMode → Except String Unit
  | .bridge network => host.connect network
  | _ => .ok ()

/-- One round of `compose up`: the configuration a service is booted with, and the record that is stored. -/
def startService (host : Host) (createDirs : Except String Unit) (project : Project)
    (svcName : String) : Except (Fault String) (BoxConfig × BoxRecord) := do
  let built ← returned
    ((project.buildBoxConfig host.lib svcName (some project.defaultNetworkName)).mapError BoxError.toText)
  let (resolvedVolumes, volumeNames) ← returned (resolveVolumes host.mountPoint built.volumes)
  let config := { built with volumes := resolvedVolumes }
  returned createDirs
  returned (connectNetwork host config.network)
  let booted ← returned (host.boot config)
  let svc := (project.file.services.lookup svcName).getD { image := none, ports := [], dependsOn := .empty }
  let record ← serviceRecord profile host project svcName svc config volumeNames booted
  returned (host.save record)
  returned (host.attachVolumes volumeNames)
  .ok (config, record)

/-! ### Reading a size twice -/

theorem stripEnd_append (front ending : List Char) : stripEnd ending (front ++ ending) = some front := by
  simp [stripEnd, stripStart]

variable {ending s front n : List Char} {d : Char} {multiplier : ℕ} {mb : UInt32} {lib : Lib} {m svcName : String}
  {profile : Profile} {project : Project} {svc : Service} {config : BoxConfig}

theorem stripEnd_eq_some (h : stripEnd ending s = some front) : s = front ++ ending := by
  obtain ⟨_, hback, rfl⟩ := map_eq_some_iff.mp h
  unfold stripStart at hback
  split_ifs at hback with hpre
  obtain ⟨_, hrest⟩ := isPrefixOf_iff_prefix.mp hpre
  cases hback
  rw [← hrest, drop_left, ← reverse_reverse s, ← hrest, reverse_append, reverse_reverse]

theorem trimEndLoop_of_none (h : stripEnd ending s = none) (times : ℕ) : trimEndLoop ending times s = s := by
  cases times with
  | zero => rfl
  | succ => simp [trimEndLoop, h]

theorem trimEndMatches_of_none {ending} (h : stripEnd ending.toList s = none) :
    trimEndMatches ending s = s := trimEndLoop_of_none h _

theorem trimEndMatches_append {ending} (h : stripEnd ending.toList s = none) (hne : 0 < ending.toList.length) :
    trimEndMatches ending (s ++ ending.toList) = s := by
  have hlength : (s ++ ending.toList).length = (s ++ ending.toList).length - 1 + 1 := by
    rw [length_append]
    omega
  rw [trimEndMatches, hlength, trimEndLoop, stripEnd_append]
  exact trimEndLoop_of_none h _

variable {c : Char} {unit : String} {stored : UInt32} {ports portMap : List String} {env : List (String × String)}
  {host : Host} {record : BoxRecord}

theorem stripEnd_of_last (h : ending.getLast? = some c) (hne : d ≠ c) : stripEnd ending (front ++ [d]) = none := by
  cases hs : stripEnd ending (front ++ [d]) with
  | none => rfl
  | some =>
    have hlast := congrArg List.getLast? (stripEnd_eq_some hs)
    rw [List.getLast?_append, List.getLast?_append, h] at hlast
    exact absurd (some.inj hlast) hne

theorem isSuffixOf_eq_isSome (ending s) : ending.isSuffixOf s = (stripEnd ending s).isSome := by
  unfold stripEnd stripStart List.isSuffixOf
  cases ending.reverse.isPrefixOf s.reverse <;> rfl

theorem ne_of_isDigit (hd : d.isDigit = true) (hc : c.isDigit = false) : d ≠ c := by
  rintro rfl
  rw [hd] at hc
  cases hc

/-- The units that `run` knows, in MB. -/
def IsUnit (unit : String) (multiplier : ℕ) : Prop :=
  (unit = "g" ∨ unit = "gb") ∧ multiplier = 1024 ∨ (unit = "m" ∨ unit = "mb") ∧ multiplier = 1

theorem memoryUnit_cases (s) : memoryUnit s = (s, 1) ∨
      ∃ n unit multiplier, IsUnit unit multiplier ∧ s = n ++ unit.toList ∧ memoryUnit s = (n, multiplier) := by
  unfold memoryUnit
  split
  next n hs => exact .inr ⟨n, "g", 1024, .inl ⟨.inl rfl, rfl⟩, stripEnd_eq_some hs, rfl⟩
  next n _ hs => exact .inr ⟨n, "gb", 1024, .inl ⟨.inr rfl, rfl⟩, stripEnd_eq_some hs, rfl⟩
  next n _ _ hs => exact .inr ⟨n, "m", 1, .inr ⟨.inl rfl, rfl⟩, stripEnd_eq_some hs, rfl⟩
  next n _ _ _ hs => exact .inr ⟨n, "mb", 1, .inr ⟨.inr rfl, rfl⟩, stripEnd_eq_some hs, rfl⟩
  · exact .inl rfl

theorem trim_unit {one two} (hone : stripEnd one.toList n = none) (htwo : stripEnd two.toList n = none)
    (hcross : stripEnd two.toList (n ++ one.toList) = none) (hone0 : 0 < one.toList.length)
    (htwo0 : 0 < two.toList.length) (hunit : unit = one ∨ unit = two) :
    trimEndMatches one (trimEndMatches two (n ++ unit.toList)) = n := by
  rcases hunit with rfl | rfl
  · rw [trimEndMatches_of_none hcross, trimEndMatches_append hone hone0]
  · rw [trimEndMatches_append htwo htwo0, trimEndMatches_of_none hone]

theorem isSuffixOf_unit {one two} (hunit : unit = one ∨ unit = two) :
    (two.toList.isSuffixOf (n ++ unit.toList) || one.toList.isSuffixOf (n ++ unit.toList)) = true := by
  rcases hunit with rfl | rfl <;> simp

theorem stripEnd_digit (hn : n = front ++ [d]) (hd : d.isDigit = true) {ending : String} {c : Char}
    (hlast : ending.toList.getLast? = some c) (hc : c.isDigit = false) : stripEnd ending.toList n = none :=
  hn ▸ stripEnd_of_last hlast (ne_of_isDigit hd hc)

/-- After a digit, `compose` takes the same text for the unit. -/
theorem writtenSize_unit (hn : n = front ++ [d]) (hd : d.isDigit = true) (h : IsUnit unit multiplier) :
    writtenSize (n ++ unit.toList) = .scaled n multiplier := by
  have hdigit := @stripEnd_digit _ _ _ hn hd
  have hg : stripEnd "gb".toList (n ++ "g".toList) = none := by simp [stripEnd, stripStart]
  have hm : stripEnd "mb".toList (n ++ "m".toList) = none := by simp [stripEnd, stripStart]
  rcases h with ⟨hunit, rfl⟩ | ⟨hunit, rfl⟩
  · have htrim := trim_unit (hdigit rfl rfl) (hdigit rfl rfl) hg (by decide) (by decide) hunit
    simp only [writtenSize, isSuffixOf_unit hunit, htrim, if_true]
  · have htrim := trim_unit (hdigit rfl rfl) (hdigit rfl rfl) hm (by decide) (by decide) hunit
    have hnot : ("gb".toList.isSuffixOf (n ++ unit.toList) || "g".toList.isSuffixOf (n ++ unit.toList)) = false := by
      rcases hunit with rfl | rfl <;> simp [isSuffixOf_eq_isSome, stripEnd, stripStart]
    simp only [writtenSize, hnot, isSuffixOf_unit hunit, htrim, if_true, if_false, Bool.false_eq_true]

theorem writtenSize_digit (hs : s = front ++ [d]) (hd : d.isDigit = true) : writtenSize s = .whole s (1024 * 1024) := by
  have hends : ∀ {ending : String} {c : Char}, ending.toList.getLast? = some c → c.isDigit = false →
      ending.toList.isSuffixOf s = false := fun hlast hc => by
    rw [isSuffixOf_eq_isSome, stripEnd_digit hs hd hlast hc]
    rfl
  simp only [writtenSize, @hends "gb" 'b' rfl rfl, @hends "g" 'g' rfl rfl, @hends "mb" 'b' rfl rfl,
    @hends "m" 'm' rfl rfl, @hends "kb" 'b' rfl rfl, @hends "k" 'k' rfl rfl, Bool.or_self, if_false, Bool.false_eq_true]

theorem writtenSize_scaled (h : writtenSize s = .scaled n multiplier) : multiplier = 2 ^ 10 ∨ multiplier = 2 ^ 0 := by
  unfold writtenSize at h
  simp only at h
  split_ifs at h
  · cases h
    exact .inl rfl
  · cases h
    exact .inr rfl

/-- A size is so many MB: a fraction is cut, and the units below MB are rounded up. -/
def WrittenSize.IsMb (mb : ℕ) : WrittenSize → Prop
  | .scaled numStr multiplier =>
    ∃ x : ℚ, Binary64.parse numStr = some (.finite x) ∧ (mb : ℚ) ≤ x * multiplier ∧ x * multiplier < mb + 1
  | .whole numStr perMb => ∃ n, parseInt (2 ^ 64 - 1) numStr = .ok n ∧ (n + (perMb - 1)) / perMb % 2 ^ 32 = mb

/-- Both programs read the same size: a whole number of MB or GB that fits, at most one byte, or anything that `run`
does not read and that is the default. -/
def MemoryKept (s : List Char) : Prop :=
  match parseInt (2 ^ 32 - 1) (memoryUnit s).1 with
  | .ok k => if (memoryUnit s).1 = s then k ≤ 1 else k * (memoryUnit s).2 < 2 ^ 32
  | .error _ => (writtenSize s).IsMb 512

theorem ofNat_eq_iff {n m} (hm : m < 2 ^ 32) : UInt32.ofNat n = UInt32.ofNat m ↔ n % 2 ^ 32 = m := by
  rw [← UInt32.toNat_inj, UInt32.toNat_ofNat', UInt32.toNat_ofNat', Nat.mod_eq_of_lt hm]

theorem mb_eq_iff (h : (writtenSize s).mb = some mb) : mb = 512 ↔ (writtenSize s).IsMb 512 := by
  cases hs : writtenSize s with
  | scaled _ multiplier =>
    rw [hs] at h
    obtain ⟨num, hnum, rfl⟩ := map_eq_some_iff.mp h
    have hbound : (num.mul (.finite multiplier)).toUnsigned (2 ^ 32 - 1) < 2 ^ 32 :=
      (toUnsigned_le _ _).trans_lt (by decide)
    have hpow : ∃ e : ℕ, multiplier = 2 ^ e := by
      rcases writtenSize_scaled hs with h | h
      · exact ⟨10, h⟩
      · exact ⟨0, h⟩
    obtain ⟨e, rfl⟩ := hpow
    have hiff := mul_toUnsigned_eq_iff (x := num) (fun v hv => representable_of_parse (hv ▸ hnum)) e
      (by decide : 0 < 512) (by decide : 512 < 2 ^ 32 - 1) (by decide)
    rw [show (512 : UInt32) = UInt32.ofNat 512 from rfl, ofNat_eq_iff (by decide), Nat.mod_eq_of_lt hbound]
    rw [Nat.cast_pow, Nat.cast_ofNat, hiff]
    simp only [WrittenSize.IsMb, hnum, some.injEq, Nat.cast_pow, Nat.cast_ofNat]
  | whole numStr =>
    rw [hs] at h
    obtain ⟨n, hn, rfl⟩ := map_eq_some_iff.mp h
    have hread : parseInt (2 ^ 64 - 1) numStr = .ok n := except_toOption.mp hn
    rw [show (512 : UInt32) = UInt32.ofNat 512 from rfl, ofNat_eq_iff (by decide)]
    simp only [WrittenSize.IsMb, hread, Except.ok.injEq, exists_eq_left']

theorem scaled_toUnsigned {k max} (h : k * multiplier < 2 ^ 53) :
    ((F64.finite k).mul (.finite multiplier)).toUnsigned max = min (k * multiplier) max := by
  have hmul : (F64.finite k).mul (.finite multiplier) = .finite (k * multiplier : ℕ) := by
    rw [← ofRat_natCast h, F64.mul, Nat.cast_mul]
  rw [hmul, F64.toUnsigned, Nat.floor_natCast]

theorem parseComposeMemory_ok (h : parseComposeMemory lib m = .ok mb) :
    (writtenSize (lib.toLowercase (trim m.toList))).mb = some mb := by
  unfold parseComposeMemory at h
  simp only at h
  split at h
  · cases h
  next mb' hmb =>
    cases h
    exact hmb

theorem recordMemory_ok (h : recordMemory lib profile (some m) = .ok mb) :
    match parseInt (2 ^ 32 - 1) (memoryUnit (lib.toLowercase (trim m.toList))).1 with
    | .ok k => mb = UInt32.ofNat (k * (memoryUnit (lib.toLowercase (trim m.toList))).2)
    | .error _ => mb = 512 := by
  unfold recordMemory parseMemory at h
  simp only at h
  generalize lib.toLowercase (trim m.toList) = s at h
  by_cases hs : s = []
  · subst hs
    cases h
    rfl
  · rw [if_neg hs] at h
    cases hread : parseInt (2 ^ 32 - 1) (memoryUnit s).1 with
    | error =>
      rw [hread] at h
      cases h
      rfl
    | ok =>
      rw [hread] at h
      simp only [mulBits] at h ⊢
      split_ifs at h
      · cases h
      · cases h
        rw [← UInt32.toNat_inj]
        simp

/-- **When the memory that is stored is the memory of the configuration.** -/
theorem memory_eq_iff (hstored : recordMemory lib profile (some m) = .ok stored)
    (hmb : parseComposeMemory lib m = .ok mb) : stored = mb ↔ MemoryKept (lib.toLowercase (trim m.toList)) := by
  have hwritten := parseComposeMemory_ok hmb
  have hrecord := recordMemory_ok hstored
  generalize lib.toLowercase (trim m.toList) = s at hwritten hrecord
  unfold MemoryKept
  cases hread : parseInt (2 ^ 32 - 1) (memoryUnit s).1 with
  | error =>
    rw [hread] at hrecord
    rw [hrecord, eq_comm]
    exact mb_eq_iff hwritten
  | ok k =>
    rw [hread] at hrecord
    obtain ⟨_, _, hfront, hd⟩ := parseInt_last hread
    have hk := parseInt_le hread
    rcases memoryUnit_cases s with hunit | ⟨n, unit, multiplier, hisUnit, rfl, hunit⟩
    · -- a number without a unit is MB for the one and bytes for the other
      rw [hunit] at hread hrecord hfront ⊢
      rw [writtenSize_digit hfront hd] at hwritten
      have hbytes : parseInt (2 ^ 64 - 1) s = .ok k := parseInt_mono (by decide) hread
      simp only [WrittenSize.mb, hbytes, Except.toOption, map_some, some.injEq] at hwritten
      subst hwritten hrecord
      have hfits : k * 1 % 2 ^ 32 = k := by omega
      simp only [ofNat_eq_iff (by omega : (k + (1024 * 1024 - 1)) / (1024 * 1024) < 2 ^ 32), if_true]
      omega
    · rw [hunit] at hread hrecord hfront ⊢
      have hne : n ≠ n ++ unit.toList := by
        rcases hisUnit with ⟨rfl | rfl, -⟩ | ⟨rfl | rfl, -⟩ <;> simp
      have hmult : multiplier = 1024 ∨ multiplier = 1 := hisUnit.imp And.right And.right
      rw [writtenSize_unit hfront hd hisUnit] at hwritten
      simp only [WrittenSize.mb, parse_of_parseInt hread (by omega), map_some, some.injEq] at hwritten
      rw [scaled_toUnsigned (by rcases hmult with rfl | rfl <;> omega)] at hwritten
      subst hwritten hrecord
      simp only [ofNat_eq_iff (by omega : min (k * multiplier) (2 ^ 32 - 1) < 2 ^ 32), if_neg hne]
      rcases hmult with rfl | rfl <;> omega

/-! ### Ports -/

theorem resolveAutoHostPort_self_iff {m : Port.PortMapping} (hhost : m.hostPort ≤ 65535) (hguest : m.guestPort ≤ 65535)
    (hguest0 : m.guestPort ≠ 0) (binding : Binding) :
    resolveAutoHostPort binding m.runtimeEntry = .ok m.runtimeEntry ↔ m.hostPort ≠ 0 := by
  constructor
  · intro h hzero
    obtain ⟨m', hentry, -, hne, -, -⟩ := settled_of_resolve hhost hguest hguest0 h
    have hsplit := splitOnce_runtimeEntry m
    rw [hentry, splitOnce_runtimeEntry, hzero] at hsplit
    have hshow : showNat m'.hostPort = ['0'] := (Prod.mk.inj (some.inj hsplit)).1
    exact showNat_ne_zero hne hshow
  · intro hne
    exact resolveAutoHostPort_of_settled ⟨m, rfl, hhost, hne, hguest, hguest0⟩ binding

/-- **When the ports are read again**, they are the same exactly if every port on the host is given. -/
theorem normalizePortMaps_eq_iff (h : Port.normalizePortMaps ports = .ok portMap) (bindings : ℕ → Binding) :
    normalizePortMaps bindings ports = .ok portMap ↔
      ∀ entry ∈ ports, ∀ m, Port.parsePortMapping entry = .ok m → m.hostPort ≠ 0 := by
  have hresolve : normalizePortMaps bindings ports = .ok portMap ↔
      ∀ entry ∈ portMap.zipIdx, resolveAutoHostPort (bindings entry.2) entry.1 = .ok entry.1 := by
    have hfst : portMap = portMap.zipIdx.map Prod.fst := by rw [zipIdx_map_fst]
    rw [← except_mapM_ok_iff, ← hfst, normalizePortMaps, h]
    rfl
  rw [hresolve]
  constructor
  · intro hsame entry hentry m hm
    obtain ⟨runtime, hruntime, heq⟩ := (except_mem_iff_of_mapM h).1 _ hentry
    rw [hm] at heq
    cases heq
    obtain ⟨i, hi, hget⟩ := mem_iff_getElem.mp hruntime
    have hmem : (m.runtimeEntry, i) ∈ portMap.zipIdx := by
      rw [mk_mem_zipIdx_iff_getElem?, List.getElem?_eq_getElem hi, hget]
    obtain ⟨hhost, hguest, hguest0⟩ := Port.parsePortMapping_ok hm
    have hself : resolveAutoHostPort (bindings i) m.runtimeEntry = .ok m.runtimeEntry := hsame (m.runtimeEntry, i) hmem
    exact (resolveAutoHostPort_self_iff hhost hguest hguest0 _).mp hself
  · intro hgiven runtime hruntime
    obtain ⟨entry, hentry, heq⟩ := (except_mem_iff_of_mapM h).2 _ (fst_mem_of_mem_zipIdx hruntime)
    obtain ⟨m, hm, hfst⟩ := except_map_ok heq
    obtain ⟨hhost, hguest, hguest0⟩ := Port.parsePortMapping_ok hm
    rw [← hfst]
    exact (resolveAutoHostPort_self_iff hhost hguest hguest0 _).mpr (hgiven entry hentry m hm)

/-! ### The environment -/

theorem mergeEnvPair_keys (base : List (String × String)) (key value : String) :
    (mergeEnvPair base key value).map Prod.fst =
      if key ∈ base.map Prod.fst then base.map Prod.fst else base.map Prod.fst ++ [key] := by
  induction base with
  | nil => rfl
  | cons var base ih =>
    obtain ⟨existing, _⟩ := var
    rw [mergeEnvPair]
    by_cases h : existing = key
    · simp [h]
    · rw [if_neg h, map_cons, ih, map_cons]
      by_cases hmem : key ∈ base.map Prod.fst
      · rw [if_pos hmem, if_pos (mem_cons_of_mem _ hmem)]
      · have hnot : key ∉ existing :: base.map Prod.fst := by
          rintro (_ | ⟨_, htail⟩)
          · exact h rfl
          · exact hmem htail
        rw [if_neg hmem, if_neg hnot, cons_append]

theorem mergeEnvPairs_nodup {base} (h : (base.map Prod.fst).Nodup)
    (overrides : List (String × String)) : ((mergeEnvPairs base overrides).map Prod.fst).Nodup := by
  induction overrides generalizing base with
  | nil => exact h
  | cons _ _ ih =>
    refine ih ?_
    rw [mergeEnvPair_keys]
    split_ifs with hmem
    · exact h
    · exact nodup_append.mpr ⟨h, nodup_singleton _, by
        rintro a ha b hb rfl
        exact hmem (mem_singleton.mp hb ▸ ha)⟩

/-- The environment of a service is all that is given for it, merged in its order. -/
theorem serviceEnv_ok (h : project.serviceEnv lib svc = .ok env) :
    ∃ files, Forall₂ (fun file entries => envFilePairs lib (resolveComposePath project.baseDir file) = .ok entries)
        svc.envFile.toVec files ∧ env = mergeEnvPairs [] (files.flatten ++ svc.environment.toPairs) := by
  obtain ⟨before, hbefore, h⟩ := except_bind_ok h
  cases h
  -- the induction is on the files, from any environment
  generalize svc.envFile.toVec = names, ([] : List (String × String)) = init at hbefore ⊢
  induction names generalizing init with
  | nil =>
    cases hbefore
    exact ⟨[], .nil, rfl⟩
  | cons file names ih =>
    obtain ⟨_, hfile, hbefore⟩ := except_bind_ok hbefore
    obtain ⟨entries, hentries, hmerged⟩ := except_bind_ok hfile
    cases hmerged
    obtain ⟨files, hfiles, henv⟩ := ih _ hbefore
    refine ⟨entries :: files, .cons (except_mapError_ok.mp hentries) hfiles, ?_⟩
    rw [henv, flatten_cons, append_assoc]
    exact (foldl_append ..).symm

theorem serviceEnv_nodup (h : project.serviceEnv lib svc = .ok env) : (env.map Prod.fst).Nodup := by
  obtain ⟨_, -, rfl⟩ := serviceEnv_ok h
  exact @mergeEnvPairs_nodup [] nodup_nil _

/-- Variables of different names are all kept in a map. -/
theorem collect_perm {pairs} (h : (pairs.map Prod.fst).Nodup) :
    ((collect pairs).entries.map fun var => (var.1, var.2)).Perm pairs := by
  have hgen : ∀ (map : TextMap), (∀ key ∈ pairs.map Prod.fst, key ∉ map) →
      ((pairs.foldl (fun map pair => map.insert pair.1 pair.2) map).entries.map fun var => (var.1, var.2)).Perm
        (map.entries.map (fun var => (var.1, var.2)) ++ pairs) := by
    induction pairs with
    | nil =>
      intro map _
      rw [append_nil]
      exact .refl _
    | cons pair pairs ih =>
      intro map hnew
      rw [map_cons, nodup_cons] at h
      have hpair : pair.1 ∉ map := hnew _ mem_cons_self
      have hrest : ∀ key ∈ pairs.map Prod.fst, key ∉ map.insert pair.1 pair.2 := by
        intro key hkey hmem
        rcases (AList.mem_insert _).mp hmem with rfl | hold
        · exact h.1 hkey
        · exact hnew key (mem_cons_of_mem _ hkey) hold
      refine (ih h.2 _ hrest).trans ?_
      rw [AList.entries_insert_of_notMem hpair]
      exact perm_middle.symm
  exact hgen ∅ fun _ _ => AList.notMem_empty _

/-! ### Starting a service again -/

theorem buildBoxConfig_service {net} (h : project.buildBoxConfig lib svcName net = .ok config)
    (hsvc : project.file.services.lookup svcName = some svc) :
    ∃ image memoryMb env portMap, serviceMemory lib svc.memLimit = .ok memoryMb ∧
      project.serviceEnv lib svc = .ok env ∧ validateHostnameOption "Invalid hostname" svc.hostname = .ok () ∧
      (∃ entries, parseAddHostEntries svc.extraHosts.toVec = .ok entries) ∧
      Port.normalizePortMaps svc.ports = .ok portMap ∧
      config = svc.boxConfig image memoryMb env portMap (project.networkMode svc net) := by
  rw [Project.buildBoxConfig, hsvc] at h
  simp only at h
  split at h
  · cases h
  next image _ =>
    obtain ⟨memoryMb, hmemory, h⟩ := except_bind_ok h
    obtain ⟨env, henv, h⟩ := except_bind_ok h
    obtain ⟨⟨⟩, hhostname, h⟩ := except_bind_ok h
    obtain ⟨entries, hentries, h⟩ := except_bind_ok h
    obtain ⟨portMap, hports, h⟩ := except_bind_ok h
    cases h
    exact ⟨image, memoryMb, env, portMap, hmemory, henv, except_mapError_ok.mp hhostname,
      ⟨entries, except_mapError_ok.mp hentries⟩, except_mapError_ok.mp hports, rfl⟩

theorem startService_ok {createDirs} (h : startService profile host createDirs project svcName = .ok (config, record))
    (hsvc : project.file.services.lookup svcName = some svc) :
    ∃ built volumes volumeNames booted,
      project.buildBoxConfig host.lib svcName (some project.defaultNetworkName) = .ok built ∧
      config = { built with volumes } ∧
      serviceRecord profile host project svcName svc config volumeNames booted = .ok record := by
  obtain ⟨built, hbuilt, h⟩ := except_bind_ok h
  obtain ⟨⟨volumes, volumeNames⟩, -, h⟩ := except_bind_ok h
  obtain ⟨_, -, h⟩ := except_bind_ok h
  obtain ⟨_, -, h⟩ := except_bind_ok h
  obtain ⟨booted, -, h⟩ := except_bind_ok h
  obtain ⟨_, hrecord, h⟩ := except_bind_ok h
  obtain ⟨_, -, h⟩ := except_bind_ok h
  obtain ⟨_, -, h⟩ := except_bind_ok h
  cases h
  rw [hsvc] at hrecord
  exact ⟨built, volumes, volumeNames, booted, except_mapError_ok.mp (except_mapError_ok.mp hbuilt), rfl, hrecord⟩

/-- A configuration with what the record has instead. -/
def restarted (config : BoxConfig) (extraEnv : List (String × String)) (entrypointOverride : Option (List String))
    (portMap : List String) (memoryMb : UInt32) : BoxConfig :=
  { config with extraEnv, entrypointOverride, portMap, dns := [], resources := { config.resources with memoryMb } }

theorem sameConfig_restarted {extraEnv entrypoint memoryMb} (hperm : extraEnv.Perm config.extraEnv) :
    SameConfig (restarted config extraEnv entrypoint portMap memoryMb) config ↔
      entrypoint = config.entrypointOverride ∧ portMap = config.portMap ∧ config.dns = [] ∧
        memoryMb = config.resources.memoryMb := by
  constructor
  · rintro ⟨-, hsame⟩
    exact ⟨congrArg BoxConfig.entrypointOverride hsame, congrArg BoxConfig.portMap hsame,
      (congrArg BoxConfig.dns hsame).symm, congrArg (fun c => c.resources.memoryMb) hsame⟩
  · rintro ⟨hentrypoint, hports, hdns, hmemory⟩
    refine ⟨hperm, ?_⟩
    simp [restarted, hentrypoint, hports, ← hdns, hmemory]

theorem configFromRecord_service {image network volumes volumeNames booted}
    (h : serviceRecord profile host project svcName svc { svc.boxConfig image mb env ports network with volumes }
      volumeNames booted = .ok record) (hhostname : validateHostnameOption "Invalid hostname" svc.hostname = .ok ())
    (haddHosts : ∃ entries, parseAddHostEntries svc.extraHosts.toVec = .ok entries) (bindings : ℕ → Binding)
    (order : Order) :
    ∃ memoryMb, recordMemory host.lib profile svc.memLimit = .ok memoryMb ∧
      configFromRecord bindings order record = (validateWorkdirOption svc.workingDir).bind fun _ =>
        (normalizePortMaps bindings svc.ports).map fun portMap =>
          restarted { svc.boxConfig image mb env ports network with volumes } (order.iter (collect env))
            (svc.entrypoint.map StringOrList.toVec) portMap memoryMb := by
  obtain ⟨_, -, h⟩ := except_bind_ok h
  obtain ⟨⟨_, _⟩, -, h⟩ := except_bind_ok h
  obtain ⟨memoryMb, hmemory, h⟩ := except_bind_ok h
  cases h
  refine ⟨memoryMb, hmemory, ?_⟩
  obtain ⟨_, hentries⟩ := haddHosts
  have hhostname' := validateHostnameOption_what "Invalid persisted hostname" hhostname
  simp only [configFromRecord, Service.boxConfig, hhostname', hentries]
  cases validateWorkdirOption svc.workingDir with
  | error => rfl
  | ok =>
    cases normalizePortMaps bindings svc.ports with
    | error => rfl
    | ok => rfl

/-- A service that is started again as it was booted. -/
structure Kept (lib : Lib) (svc : Service) : Prop where
  /-- Its memory is read alike by both programs. -/
  memory : ∀ m, svc.memLimit = some m → MemoryKept (lib.toLowercase (trim m.toList))
  dns : svc.dns.toVec = []
  entrypoint : ∀ e, svc.entrypoint = some e → e.toVec ≠ []
  ports : ∀ entry ∈ svc.ports, ∀ m, Port.parsePortMapping entry = .ok m → m.hostPort ≠ 0
  workdir : ∀ dir, svc.workingDir = some dir → dir ≠ "" ∧ '\x00' ∉ dir.toList

theorem validateWorkdirOption_iff {workdir} :
    validateWorkdirOption workdir = .ok () ↔ ∀ dir, workdir = some dir → dir ≠ "" ∧ '\x00' ∉ dir.toList := by
  cases workdir with
  | none => simp [validateWorkdirOption]
  | some =>
    simp only [validateWorkdirOption]
    split_ifs with hempty hnul
    · simp [hempty]
    · simp [hnul]
    · simp [hempty, hnul]

theorem entrypoint_eq_iff {entrypoint} :
    entrypoint.map StringOrList.toVec = (entrypoint.map StringOrList.toVec).filter (fun v => !v.isEmpty) ↔
      ∀ e, entrypoint = some e → e.toVec ≠ [] := by
  cases entrypoint with
  | none => simp
  | some e =>
    cases he : e.toVec <;> simp [Option.filter]

theorem serviceMemory_eq_iff {memLimit} (hstored : recordMemory lib profile memLimit = .ok stored)
    (hmb : serviceMemory lib memLimit = .ok mb) :
    stored = mb ↔ ∀ m, memLimit = some m → MemoryKept (lib.toLowercase (trim m.toList)) := by
  cases memLimit with
  | none =>
    cases hstored
    cases hmb
    simp
  | some =>
    rw [memory_eq_iff hstored hmb]
    simp

/-- **When a service is started again, it is started as it was booted** exactly if both programs read its memory alike,
it has no DNS servers and no empty entrypoint, its ports on the host are given, and its working directory is accepted
for a box. -/
theorem compose_restart_preserves_iff {profile : Profile} {host : Host} {createDirs : Except String Unit}
    {project : Project} {svcName : String} {svc : Service} (hsvc : project.file.services.lookup svcName = some svc)
    {config : BoxConfig} {record : BoxRecord}
    (h : startService profile host createDirs project svcName = .ok (config, record)) (bindings : ℕ → Binding)
    (order : Order) :
    (∃ rebuilt, configFromRecord bindings order record = .ok rebuilt ∧ SameConfig rebuilt config) ↔
      Kept host.lib svc := by
  obtain ⟨_, _, _, _, hbuilt, rfl, hrecord⟩ := startService_ok h hsvc
  obtain ⟨_, _, env, _, hmb, henv, hhostname, haddHosts, hports, rfl⟩ := buildBoxConfig_service hbuilt hsvc
  obtain ⟨_, hstored, hrebuilt⟩ := configFromRecord_service hrecord hhostname haddHosts bindings order
  have hperm : (order.iter (collect env)).Perm env := (order.perm _).trans (collect_perm (serviceEnv_nodup henv))
  have hmemory := serviceMemory_eq_iff hstored hmb
  have hsame := normalizePortMaps_eq_iff hports bindings
  rw [hrebuilt]
  constructor
  · rintro ⟨_, hok, hkept⟩
    obtain ⟨⟨⟩, hworkdir, hok⟩ := except_bind_ok hok
    obtain ⟨_, hportMap, rfl⟩ := except_map_ok hok
    obtain ⟨hentrypoint, rfl, hdns, hstoredEq⟩ := (sameConfig_restarted hperm).mp hkept
    exact
      { memory := hmemory.mp hstoredEq
        dns := hdns
        entrypoint := entrypoint_eq_iff.mp hentrypoint
        ports := hsame.mp hportMap
        workdir := validateWorkdirOption_iff.mp hworkdir }
  · intro hkept
    have hworkdir := validateWorkdirOption_iff.mpr hkept.workdir
    rw [hworkdir, hsame.mpr hkept.ports]
    exact ⟨_, rfl, (sameConfig_restarted hperm).mpr
      ⟨entrypoint_eq_iff.mpr hkept.entrypoint, rfl, hkept.dns, hmemory.mpr hkept.memory⟩⟩

/-- A project with one service. -/
def oneService (svc : Service) : Project where
  name := "shop"
  file := { services := AList.singleton "web" svc, networks := [] }
  serviceOrder := ["web"]
  baseDir := "/srv/shop"

/-- A service with `mem_limit: 1g` and `ports: ["8080:80"]`. -/
def wholeService : Service where
  image := some "nginx"
  ports := ["8080:80"]
  dependsOn := .empty
  memLimit := some "1g"
  environment := .list ["A=b", "C=d", "A=e"]
  workingDir := some "/srv"
  hostname := some "web"

/-- A service with `mem_limit: 1.5g`, `dns: 1.1.1.1`, `ports: ["0:80"]` and `entrypoint: ""`. -/
def fractionalService : Service where
  image := some "nginx"
  ports := ["0:80"]
  dependsOn := .empty
  memLimit := some "1.5g"
  dns := .single "1.1.1.1"
  entrypoint := some (.single "")

theorem wholeService_restarts : ∃ config record rebuilt,
    startService .release plainHost (.ok ()) (oneService wholeService) "web" = .ok (config, record) ∧
    configFromRecord plainHost.bindings plainHost.order record = .ok rebuilt ∧ SameConfig rebuilt config := by
  have hok : (startService .release plainHost (.ok ()) (oneService wholeService) "web").isOk = true := by
    decide +kernel
  obtain ⟨⟨config, record⟩, h⟩ := except_of_isOk hok
  have hports : ∀ entry ∈ wholeService.ports, ∀ m, Port.parsePortMapping entry = .ok m → m.hostPort ≠ 0 := by
    intro entry hentry m hm
    rw [mem_singleton.mp hentry]
      at hm
    cases hm
    decide
  have hmemory : MemoryKept (plainHost.lib.toLowercase (trim "1g".toList)) := by
    have hread : parseInt (2 ^ 32 - 1) (memoryUnit (plainHost.lib.toLowercase (trim "1g".toList))).1 = .ok 1 := by
      decide +kernel
    unfold MemoryKept
    rw [hread]
    decide +kernel
  have hkept : Kept plainHost.lib wholeService :=
    { memory := by
        rintro m ⟨⟩
        exact hmemory
      dns := rfl
      entrypoint := nofun
      ports := hports
      workdir := by
        decide }
  obtain ⟨rebuilt, hrebuilt, hsame⟩ :=
    (compose_restart_preserves_iff rfl h plainHost.bindings plainHost.order).mpr hkept
  exact ⟨config, record, rebuilt, h, hrebuilt, hsame⟩

/-- The service is booted with 1536 MB, a DNS server and no entrypoint of its own; started again, it has 512 MB, no DNS
server, an empty entrypoint and another port. -/
theorem fractionalService_changes : ∃ config record rebuilt,
    startService .release plainHost (.ok ()) (oneService fractionalService) "web" = .ok (config, record) ∧
    configFromRecord plainHost.bindings plainHost.order record = .ok rebuilt ∧ ¬ SameConfig rebuilt config ∧
    (config.resources.memoryMb = 1536 ∧ rebuilt.resources.memoryMb = 512) ∧
    (config.dns = ["1.1.1.1"] ∧ rebuilt.dns = []) ∧
    (config.entrypointOverride = none ∧ rebuilt.entrypointOverride = some []) ∧
    config.portMap = ["0:80"] ∧ rebuilt.portMap = ["49153:80"] := by
  have hfields : (startService .release plainHost (.ok ()) (oneService fractionalService) "web").toOption.any
      (fun started => (configFromRecord plainHost.bindings plainHost.order started.2).toOption.any fun rebuilt =>
        (started.1.resources.memoryMb = 1536 ∧ rebuilt.resources.memoryMb = 512) ∧
          (started.1.dns = ["1.1.1.1"] ∧ rebuilt.dns = []) ∧
          (started.1.entrypointOverride = none ∧ rebuilt.entrypointOverride = some []) ∧
          started.1.portMap = ["0:80"] ∧ rebuilt.portMap = ["49153:80"]) = true := by
    decide +kernel
  obtain ⟨⟨config, record⟩, hstarted⟩ : ∃ started,
      startService .release plainHost (.ok ()) (oneService fractionalService) "web" = .ok started :=
    except_of_isOk (by decide +kernel)
  rw [hstarted] at hfields
  change (configFromRecord plainHost.bindings plainHost.order record).toOption.any _ = true at hfields
  cases hrebuilt : configFromRecord plainHost.bindings plainHost.order record with
  | error =>
    rw [hrebuilt] at hfields
    cases hfields
  | ok rebuilt =>
    rw [hrebuilt] at hfields
    obtain ⟨hmemory, hdns, hentrypoint, hports⟩ := of_decide_eq_true hfields
    refine ⟨config, record, rebuilt, hstarted, hrebuilt, fun hsame => ?_, hmemory, hdns, hentrypoint, hports⟩
    have hsameDns := congrArg BoxConfig.dns hsame.2
    exact absurd (hdns.2.symm.trans (hsameDns.trans hdns.1)) (by decide)

/-! ### The laws of merging -/

section Merging

variable {base l l' : List (String × String)} (overrides : List (String × String)) (name : String)

theorem lookup_cons_if (var : String × String) :
    (var :: l).lookup name = if name = var.1 then some var.2 else l.lookup name := by
  split_ifs with h
  · rw [h]
    exact lookup_cons_self
  · rw [lookup_cons, beq_false_of_ne h]

theorem lookup_mergeEnvPair (base key value) :
    (mergeEnvPair base key value).lookup name = if name = key then some value else base.lookup name := by
  induction base with
  | nil => exact lookup_cons_if name (key, value)
  | cons var base ih =>
    rw [mergeEnvPair]
    by_cases h : var.1 = key
    · rw [if_pos h, lookup_cons_if, lookup_cons_if, h]
      split_ifs <;> rfl
    · rw [if_neg h, lookup_cons_if, lookup_cons_if, ih]
      split_ifs with hname hkey
      · exact absurd (hname.symm.trans hkey) h
      all_goals rfl

theorem mergeEnvPairs_concat (base) (var : String × String) :
    mergeEnvPairs base (overrides ++ [var]) = mergeEnvPair (mergeEnvPairs base overrides) var.1 var.2 :=
  foldl_concat ..

/-- The last value that is given counts. -/
theorem lookup_mergeEnvPairs (base) :
    (mergeEnvPairs base overrides).lookup name = (overrides.reverse.lookup name).or (base.lookup name) := by
  induction overrides using reverseRecOn with
  | nil => rfl
  | append_singleton overrides var ih =>
    rw [mergeEnvPairs_concat, lookup_mergeEnvPair, ih, reverse_concat, lookup_cons_if]
    split_ifs <;> rfl

theorem eraseDups_concat (keys : List String) (key : String) :
    (keys ++ [key]).eraseDups = if key ∈ keys then keys.eraseDups else keys.eraseDups ++ [key] := by
  rw [eraseDups_append]
  split_ifs with h
  · simp [removeAll, h]
  · simp [removeAll, h]
    rfl

theorem eraseDups_of_nodup {keys : List String} (h : keys.Nodup) : keys.eraseDups = keys := by
  induction keys using reverseRecOn with
  | nil => rfl
  | append_singleton keys key ih =>
    obtain ⟨hfront, -, hapart⟩ := nodup_append.mp h
    rw [eraseDups_concat, if_neg fun hmem => hapart key hmem key (mem_singleton_self _) rfl, ih hfront]

theorem keys_mergeEnvPairs (h : (base.map Prod.fst).Nodup) :
    (mergeEnvPairs base overrides).map Prod.fst = (base.map Prod.fst ++ overrides.map Prod.fst).eraseDups := by
  induction overrides using reverseRecOn with
  | nil => rw [map_nil, append_nil, eraseDups_of_nodup h, mergeEnvPairs, foldl_nil]
  | append_singleton overrides var ih =>
    rw [mergeEnvPairs_concat, mergeEnvPair_keys, ih, map_append, map_singleton, ← append_assoc, eraseDups_concat]
    simp only [mem_eraseDups]

theorem eq_map_lookup (h : (l.map Prod.fst).Nodup) :
    l = (l.map Prod.fst).map fun name => (name, (l.lookup name).getD "") := by
  induction l with
  | nil => rfl
  | cons var l ih =>
    obtain ⟨hnew, hrest⟩ := nodup_cons.mp h
    rw [map_cons, map_cons, lookup_cons_if, if_pos rfl]
    refine congrArg (var :: ·) ((ih hrest).trans (map_congr_left fun name hname => ?_))
    rw [lookup_cons_if, if_neg fun heq : name = var.1 => hnew (heq ▸ hname)]

/-- Lists with the same keys, each once, and the same values are the same. -/
theorem eq_of_lookup (hkeys : l.map Prod.fst = l'.map Prod.fst) (hnodup : (l.map Prod.fst).Nodup)
    (h : ∀ name, l.lookup name = l'.lookup name) : l = l' := by
  calc
    l = (l.map Prod.fst).map fun name => (name, (l.lookup name).getD "") := eq_map_lookup hnodup
    _ = (l'.map Prod.fst).map fun name => (name, (l'.lookup name).getD "") := by simp only [hkeys, h]
    _ = l' := (eq_map_lookup (hkeys ▸ hnodup)).symm

theorem lookup_reverse (h : (l.map Prod.fst).Nodup) : l.reverse.lookup name = l.lookup name := by
  induction l with
  | nil => rfl
  | cons var l ih =>
    obtain ⟨hnew, hrest⟩ := nodup_cons.mp h
    rw [reverse_cons, lookup_append, ih hrest, lookup_cons_if, lookup_cons_if]
    split_ifs with hname
    · have hnone : l.lookup name = none := lookup_eq_none_iff.mpr fun entry hentry =>
        bne_iff_ne.mpr fun heq => hnew (mem_map.mpr ⟨entry, hentry, heq.symm.trans hname⟩)
      rw [hnone, none_or]
    · exact or_none

/-- What is merged into the middle list may as well be merged at the end. -/
theorem merge_mergeEnvPair {middle} (h : (base.map Prod.fst).Nodup) (hmiddle : (middle.map Prod.fst).Nodup)
    (key value : String) :
    mergeEnvPairs base (mergeEnvPair middle key value) = mergeEnvPair (mergeEnvPairs base middle) key value := by
  have hnodup : ((mergeEnvPair middle key value).map Prod.fst).Nodup := mergeEnvPairs_nodup hmiddle [(key, value)]
  refine eq_of_lookup ?_ (mergeEnvPairs_nodup h _) fun name => ?_
  · rw [keys_mergeEnvPairs _ h, mergeEnvPair_keys, mergeEnvPair_keys, keys_mergeEnvPairs _ h]
    simp only [mem_eraseDups, mem_append]
    split_ifs with hin hany hany
    · rfl
    · exact absurd (.inr hin) hany
    · rw [← append_assoc, eraseDups_concat, if_pos (mem_append.mpr hany)]
    · rw [← append_assoc, eraseDups_concat, if_neg fun hmem => hany (mem_append.mp hmem)]
  · rw [lookup_mergeEnvPairs, lookup_reverse name hnodup, lookup_mergeEnvPair, lookup_mergeEnvPair,
      lookup_mergeEnvPairs, lookup_reverse name hmiddle]
    split_ifs <;> rfl

/-- **How environments are merged.** Keys stay distinct and in the order of their first occurrence, and the last value
counts; to merge the same again changes nothing, and either pair of three lists may be merged first. So the service's
own values count before its files, and later files before earlier ones. -/
theorem env_merged : (∀ base overrides, (base.map Prod.fst).Nodup →
      ((mergeEnvPairs base overrides).map Prod.fst).Nodup ∧
      (∀ name, (mergeEnvPairs base overrides).lookup name = (overrides.reverse.lookup name).or (base.lookup name)) ∧
      (mergeEnvPairs base overrides).map Prod.fst = (base.map Prod.fst ++ overrides.map Prod.fst).eraseDups ∧
      mergeEnvPairs (mergeEnvPairs base overrides) overrides = mergeEnvPairs base overrides ∧
      ∀ middle, (middle.map Prod.fst).Nodup →
        mergeEnvPairs (mergeEnvPairs base middle) overrides = mergeEnvPairs base (mergeEnvPairs middle overrides)) ∧
    ∀ lib project svc env, Project.serviceEnv lib project svc = .ok env → ∃ files,
      Forall₂ (fun file entries => envFilePairs lib (resolveComposePath project.baseDir file) = .ok entries)
        svc.envFile.toVec files ∧
      ∀ name, env.lookup name = (files.flatten ++ svc.environment.toPairs).reverse.lookup name := by
  constructor
  · intro base overrides h
    have hnodup := mergeEnvPairs_nodup h overrides
    refine ⟨hnodup, fun name => lookup_mergeEnvPairs overrides name base, keys_mergeEnvPairs overrides h, ?_, ?_⟩
    · refine eq_of_lookup ?_ (mergeEnvPairs_nodup hnodup _) fun name => ?_
      · have hnone : (overrides.map Prod.fst).removeAll ((mergeEnvPairs base overrides).map Prod.fst) = [] := by
          rw [keys_mergeEnvPairs overrides h]
          refine filter_eq_nil_iff.mpr fun name hname => ?_
          have hmem := mem_eraseDups.mpr (mem_append_right (base.map Prod.fst) hname)
          simp only [elem_eq_mem, hmem, decide_true, Bool.not_true, Bool.false_eq_true, not_false_iff]
        rw [keys_mergeEnvPairs _ hnodup, eraseDups_append, eraseDups_of_nodup hnodup, hnone, eraseDups_nil, append_nil]
      · rw [lookup_mergeEnvPairs, lookup_mergeEnvPairs, ← Option.or_assoc, Option.or_self]
    · intro middle hmiddle
      induction overrides using reverseRecOn with
      | nil => rfl
      | append_singleton overrides var ih =>
        rw [mergeEnvPairs_concat, mergeEnvPairs_concat, ih (mergeEnvPairs_nodup h overrides),
          merge_mergeEnvPair h (mergeEnvPairs_nodup hmiddle _)]
  · intro lib project svc env henv
    obtain ⟨files, hfiles, rfl⟩ := serviceEnv_ok henv
    exact ⟨files, hfiles, fun name => (lookup_mergeEnvPairs _ name []).trans or_none⟩

/-- Two files of variables. -/
def envFiles : Boxes.Lib :=
  { plainHost.lib with readToString := fun path => .ok (if path = "/srv/shop/a.env" then "A=1\nB=1" else "B=2\nC=2") }

/-- A service with both files, and a variable of its own. -/
def envService : Service :=
  { wholeService with envFile := .list ["/srv/shop/a.env", "/srv/shop/b.env"], environment := .list ["C=3"] }

/-- The service's own value counts before those of the files, and the later file before the earlier. -/
theorem envService_merged :
    (∃ env, (oneService envService).serviceEnv envFiles envService = .ok env ∧
      ["A", "B", "C", "D"].map (fun name => env.lookup name) = [some "1", some "2", some "3", none]) ∧
    mergeEnvPairs (mergeEnvPairs [("A", "1"), ("B", "1")] [("B", "2"), ("C", "2")]) [("C", "3"), ("C", "4")] =
      mergeEnvPairs [("A", "1"), ("B", "1")] (mergeEnvPairs [("B", "2"), ("C", "2")] [("C", "3"), ("C", "4")]) := by
  obtain ⟨hmerge, hservice⟩ := env_merged
  constructor
  · have henv : (oneService envService).serviceEnv envFiles envService =
        .ok [("A", "1"), ("B", "2"), ("C", "3")] := by decide +kernel
    obtain ⟨files, hfiles, hlookup⟩ := hservice _ _ _ _ henv
    refine ⟨_, henv, ?_⟩
    have ha : envFilePairs envFiles (resolveComposePath "/srv/shop" "/srv/shop/a.env") =
        .ok [("A", "1"), ("B", "1")] := by decide +kernel
    have hb : envFilePairs envFiles (resolveComposePath "/srv/shop" "/srv/shop/b.env") =
        .ok [("B", "2"), ("C", "2")] := by decide +kernel
    obtain _ | ⟨hfirst, _ | ⟨hsecond, ⟨⟩⟩⟩ := hfiles
    obtain rfl := Except.ok.inj (ha.symm.trans hfirst)
    obtain rfl := Except.ok.inj (hb.symm.trans hsecond)
    simp only [map_cons, map_nil, hlookup]
    decide +kernel
  · exact (hmerge _ _ (by decide)).2.2.2.2 _ (by decide)

end Merging

end A3sBox.Compose
