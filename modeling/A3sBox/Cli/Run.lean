import A3sBox.Cli.Options

/-!
# Running a box and starting it again

`cli/src/commands/run.rs` and `cli/src/boot.rs`: `run` makes a configuration of its arguments, boots a machine with it
and stores a record, of which a configuration is made when the box is started again. `Host` is what `run` finds and
what comes of what it asks for. The variables of a map come in some `Order`.

`restart_preserves_iff`: the boxes whose configuration stays the same; `keptBox_changes` is another.
-/

namespace A3sBox.Boxes

open Text Slices Options

/-! ### What `run` is given -/

/-- The arguments of `run`; the values given here are the defaults. -/
structure RunArgs where
  common : CommonBoxArgs
  detach : Bool := false
  tty : Bool := false
  rm : Bool := false
  cmd : List String := []
  logDriver : String := "json-file"
  logOpts : List String := []
  /-- Whether it runs in a trusted execution environment. -/
  tee : Bool := false
  teeWorkloadId : Option String := none
  teeSimulate : Bool := false
  sidecar : Option String := none
  sidecarVsockPort : UInt32 := 4092

/-- The order in which the variables of a map come. -/
structure Order where
  iter : TextMap → List (String × String)
  /-- All of them come, and each once. -/
  perm : ∀ map, (iter map).Perm (map.entries.map fun var => (var.1, var.2))

/-- A machine that was booted. -/
structure Booted where
  pid : Option UInt32 := none
  imageHealthCheck : Option OciHealthCheck := none
  imageStopSignal : Option String := none
  anonymousVolumes : List String := []
  execSocketPath : Option String := none

/-- What `run` finds, and what comes of what it asks for. -/
structure Host where
  lib : Lib
  checkBindings : ℕ → Binding
  bindings : ℕ → Binding
  /-- Where a named volume is; it is made if there is none. -/
  mountPoint : ℕ → String → Except String String
  order : Order
  generatedName : String
  boxId : String
  stdinIsTerminal : Bool
  connect : String → Except String Unit
  boot : BoxConfig → Except String Booted
  home : String
  createdAt : ℤ
  startedAt : ℤ
  save : BoxRecord → Except String Unit
  attachVolumes : List String → Except String Unit
  createLogDir : Except String Unit

/-! ### From arguments to a configuration -/

/-- A terminal has to be there, and the box in the foreground. -/
def validateRunMode (args : RunArgs) (stdinIsTerminal : Bool) : Except String Unit :=
  if args.detach ∧ args.tty then .error "Cannot use -t (tty) with -d (detach)"
  else if args.tty ∧ stdinIsTerminal = false then .error "The -t flag requires a terminal (stdin is not a TTY)"
  else .ok ()

/-- Read a log driver. -/
def parseLogDriver (s : String) : Except String LogDriver :=
  if s = "json-file" then .ok .jsonFile
  else if s = "syslog" then .ok .syslog
  else if s = "none" then .ok .none
  else .error s!"unknown log driver: '{s}' (supported: json-file, syslog, none)"

/-- A volume, with the place of a named one, and its name. -/
def resolveNamedVolume (mountPoint : String → Except String String) (spec : String) :
    Except String (String × Option String) :=
  match spec.toList.splitOn ':' with
  | host :: part :: parts =>
    if host.head? = some '/' ∨ host.head? = some '.' then .ok (spec, none)
    else do
      let name := String.ofList host
      let mounted ← mountPoint name
      let resolved := (part :: parts).foldl (fun resolved part => resolved ++ ':' :: part) mounted.toList
      .ok (String.ofList resolved, some name)
  | _ => .ok (spec, none)

/-- The volumes, and the names of those that have one. -/
def resolveVolumes (mountPoint : ℕ → String → Except String String) (specs : List String) :
    Except String (List String × List String) := do
  let volumes ← specs.zipIdx.mapM fun spec => resolveNamedVolume (mountPoint spec.2) spec.1
  .ok (volumes.map Prod.fst, volumes.filterMap Prod.snd)

/-- An error that is returned. -/
def returned {α : Type} (x : Except String α) : Except (Fault String) α := x.mapError .error

/-- What the arguments say. -/
structure Parsed where
  restartPolicy : String
  maxRestartCount : UInt32
  memoryMb : UInt32
  resourceLimits : ResourceLimits
  logConfig : LogConfig
  env : TextMap
  portMap : List String
  labels : TextMap
  entrypointOverride : Option (List String)
  resolvedVolumes : List String
  volumeNames : List String
  shmSize : Option UInt64

variable (profile : Profile)

/-- What the arguments say, if they can be met. -/
def parseArgs (host : Host) (args : RunArgs) : Except (Fault String) Parsed := do
  returned (validateRuntimeOptions host.checkBindings args.common)
  let (restartPolicy, maxRestartCount) ← returned (parseRestartPolicy args.common.restart)
  let memoryMb ← (parseMemory host.lib profile args.common.memory).mapError (about "Invalid --memory")
  let resourceLimits ← buildResourceLimits host.lib profile args.common
  let driver ← returned ((parseLogDriver args.logDriver).mapError fun e => s!"Invalid --log-driver: {e}")
  let options ← returned ((parseEnvVars args.logOpts).mapError fun e => e.replace "environment variable" "log option")
  let env ← returned (buildEnvMap host.lib args.common)
  let portMap ← returned (normalizePortMaps host.bindings args.common.publish)
  let labels ← returned ((parseEnvVars args.common.labels).mapError fun e => e.replace "environment variable" "label")
  let entrypointOverride := args.common.entrypoint.map fun ep => (splitWhitespace ep.toList).map String.ofList
  let (resolvedVolumes, volumeNames) ← returned (resolveVolumes host.mountPoint args.common.volumes)
  let shmSize ← parseSize host.lib profile "Invalid --shm-size" args.common.shmSize
  .ok
    { restartPolicy, maxRestartCount, memoryMb, resourceLimits, logConfig := ⟨driver, options⟩, env, portMap, labels,
      entrypointOverride, resolvedVolumes, volumeNames, shmSize }

/-- The file systems in memory, with the shared memory. -/
def withShm (tmpfs : List String) : Option UInt64 → List String
  | none => tmpfs
  | some sizeBytes => tmpfs ++ [String.ofList ("/dev/shm:size=".toList ++ showNat sizeBytes.toNat)]

/-- The network of a box. -/
def networkMode : Option String → NetworkMode
  | some name => .bridge name
  | none => .tsi

/-- The trusted execution environment. -/
def buildTeeConfig (args : RunArgs) : TeeConfig :=
  if args.tee ∨ args.teeSimulate then
    .sevSnp (args.teeWorkloadId.getD args.common.image) .milan args.teeSimulate
  else .none

/-- What keeps a box with a terminal alive. -/
def interactiveKeepaliveEntrypoint : List String :=
  ["/bin/sh", "-c", "trap 'exit 0' TERM INT; while :; do sleep 3600; done"]

/-- The configuration of the arguments. -/
def buildBoxConfig (args : RunArgs) (parsed : Parsed) (extraEnv : List (String × String)) :
    Except String BoxConfig := do
  let user ← normalizeUserOption args.common.user
  .ok
    { image := args.common.image
      resources := { vcpus := args.common.cpus, memoryMb := parsed.memoryMb }
      cmd := if args.tty then ["a3s-box-pty-keepalive"] else args.cmd
      entrypointOverride := if args.tty then some interactiveKeepaliveEntrypoint else parsed.entrypointOverride
      user
      workdir := args.common.workdir
      hostname := args.common.hostname
      volumes := parsed.resolvedVolumes
      extraEnv
      portMap := parsed.portMap
      dns := args.common.dns
      addHosts := args.common.addHost
      network := networkMode args.common.network
      tmpfs := withShm args.common.tmpfs parsed.shmSize
      resourceLimits := parsed.resourceLimits
      tee := buildTeeConfig args
      readOnly := args.common.readOnly
      capAdd := args.common.capAdd
      capDrop := args.common.capDrop
      securityOpt := args.common.securityOpt
      privileged := args.common.privileged
      sidecar := args.sidecar.map fun image => ⟨image, args.sidecarVsockPort, []⟩
      persistent := args.common.persistent || !args.rm }

/-! ### The record -/

/-- A path below another one. -/
def joinPath (path part : String) : String :=
  if part.toList.head? = some '/' then part
  else if path = "" ∨ path.toList.getLast? = some '/' then path ++ part
  else path ++ "/" ++ part

/-- The first twelve digits of the name of a box. -/
def makeShortId (id : String) : String := String.ofList ((id.toList.filter fun c => c != '-').take 12)

/-- What is stored about a box that was booted. -/
def buildRecord (host : Host) (args : RunArgs) (parsed : Parsed) (booted : Booted) : BoxRecord :=
  let boxDir := joinPath (joinPath host.home "boxes") host.boxId
  let healthCheck := effectiveHealthCheck args.common booted.imageHealthCheck
  { id := host.boxId
    shortId := makeShortId host.boxId
    name := args.common.name.getD host.generatedName
    image := args.common.image
    status := "running"
    pid := booted.pid
    cpus := args.common.cpus
    memoryMb := parsed.memoryMb
    volumes := parsed.resolvedVolumes
    env := parsed.env
    cmd := args.cmd
    entrypoint := parsed.entrypointOverride
    boxDir
    execSocketPath := booted.execSocketPath.getD (joinPath (joinPath boxDir "sockets") "exec.sock")
    consoleLog := joinPath (joinPath boxDir "logs") "console.log"
    createdAt := host.createdAt
    startedAt := some host.startedAt
    autoRemove := args.rm
    hostname := args.common.hostname
    user := args.common.user
    workdir := args.common.workdir
    restartPolicy := parsed.restartPolicy
    portMap := parsed.portMap
    labels := parsed.labels
    stoppedByUser := false
    restartCount := 0
    maxRestartCount := parsed.maxRestartCount
    exitCode := none
    healthCheck
    healthcheckDisabled := args.common.noHealthcheck
    healthStatus := if healthCheck.isSome then "starting" else "none"
    healthRetries := 0
    healthLastCheck := none
    networkMode := networkMode args.common.network
    networkName := args.common.network
    volumeNames := parsed.volumeNames
    tmpfs := args.common.tmpfs
    anonymousVolumes := booted.anonymousVolumes
    resourceLimits := parsed.resourceLimits
    logConfig := parsed.logConfig
    addHost := args.common.addHost
    platform := args.common.platform
    init := args.common.init
    readOnly := args.common.readOnly
    capAdd := args.common.capAdd
    capDrop := args.common.capDrop
    securityOpt := args.common.securityOpt
    privileged := args.common.privileged
    devices := args.common.device
    gpus := args.common.gpus
    shmSize := parsed.shmSize
    stopSignal := effectiveStopSignal args.common.stopSignal booted.imageStopSignal
    stopTimeout := args.common.stopTimeout
    oomKillDisable := args.common.oomKillDisable
    oomScoreAdj := args.common.oomScoreAdj }

/-- The milliseconds before a box is killed, if they are given. -/
def stopTimeoutMs : Option UInt64 → Except (Fault String) (Option ℕ)
  | none => .ok none
  | some secs => (mulBits profile 64 secs.toNat 1000).map some

/-- The configuration a box is booted with, and the record that is stored. -/
def setupAndBoot (host : Host) (args : RunArgs) : Except (Fault String) (BoxConfig × BoxRecord) := do
  let parsed ← parseArgs profile host args
  let config ← returned (buildBoxConfig args parsed (host.order.iter parsed.env))
  returned (args.common.network.forM host.connect)
  let booted ← returned (host.boot config)
  let record := buildRecord host args parsed booted
  let _ ← stopTimeoutMs profile args.common.stopTimeout
  returned (host.save record)
  returned (host.attachVolumes parsed.volumeNames)
  returned host.createLogDir
  .ok (config, record)

/-- `run`, until the box is there. -/
def execute (host : Host) (args : RunArgs) : Except (Fault String) (BoxConfig × BoxRecord) := do
  returned (validateRunMode args host.stdinIsTerminal)
  setupAndBoot profile host args

/-! ### From a record to a configuration -/

/-- The configuration of a record. -/
def configFromRecord (bindings : ℕ → Binding) (order : Order) (record : BoxRecord) : Except String BoxConfig := do
  let user ← normalizeUserOption record.user
  validateWorkdirOption record.workdir
  let portMap ← normalizePortMaps bindings record.portMap
  validateHostnameOption "Invalid persisted hostname" record.hostname
  let _ ← (parseAddHostEntries record.addHost).mapError fun e => s!"Invalid persisted add-host entry: {e}"
  .ok
    { image := record.image
      resources := { vcpus := record.cpus, memoryMb := record.memoryMb }
      cmd := record.cmd
      entrypointOverride := record.entrypoint
      user
      workdir := record.workdir
      hostname := record.hostname
      volumes := record.volumes
      extraEnv := order.iter record.env
      portMap
      addHosts := record.addHost
      network := record.networkMode
      tmpfs := withShm record.tmpfs record.shmSize
      resourceLimits := record.resourceLimits
      readOnly := record.readOnly
      capAdd := record.capAdd
      capDrop := record.capDrop
      securityOpt := record.securityOpt
      privileged := record.privileged }

/-! ### What was accepted once is accepted again -/

theorem validateHostnameOption_what {what hostname} (what' : String)
    (h : validateHostnameOption what hostname = .ok ()) : validateHostnameOption what' hostname = .ok () := by
  cases hostname with
  | none => rfl
  | some => exact except_mapError_ok.mpr (except_mapError_ok.mp h)

theorem validateRuntimeOptions_ok {bindings common} (h : validateRuntimeOptions bindings common = .ok ()) :
    validateWorkdirOption common.workdir = .ok () ∧
      validateHostnameOption "Invalid --hostname" common.hostname = .ok () ∧
      ∃ entries, parseAddHostEntries common.addHost = .ok entries := by
  unfold validateRuntimeOptions at h
  split_ifs at h
  obtain ⟨_, -, h⟩ := except_bind_ok h
  obtain ⟨⟨⟩, hworkdir, h⟩ := except_bind_ok h
  obtain ⟨_, -, h⟩ := except_bind_ok h
  obtain ⟨⟨⟩, hhostname, h⟩ := except_bind_ok h
  obtain ⟨entries, haddHost, h⟩ := except_bind_ok h
  exact ⟨hworkdir, hhostname, entries, except_mapError_ok.mp haddHost⟩

variable {profile : Profile} {host : Host} {args : RunArgs} {config : BoxConfig}

variable {parsed : Parsed} {record : BoxRecord} {extraEnv : List (String × String)}

theorem parseArgs_ok (h : parseArgs profile host args = .ok parsed) :
    validateRuntimeOptions host.checkBindings args.common = .ok () ∧
      normalizePortMaps host.bindings args.common.publish = .ok parsed.portMap := by
  obtain ⟨⟨⟩, hvalid, h⟩ := except_bind_ok h
  obtain ⟨⟨_, _⟩, -, h⟩ := except_bind_ok h
  iterate 5 obtain ⟨_, -, h⟩ := except_bind_ok h
  obtain ⟨_, hportMap, h⟩ := except_bind_ok h
  obtain ⟨_, -, h⟩ := except_bind_ok h
  obtain ⟨⟨_, _⟩, -, h⟩ := except_bind_ok h
  obtain ⟨_, -, h⟩ := except_bind_ok h
  cases h
  exact ⟨except_mapError_ok.mp hvalid, except_mapError_ok.mp hportMap⟩

theorem execute_ok (h : execute profile host args = .ok (config, record)) :
    ∃ parsed booted, parseArgs profile host args = .ok parsed ∧
      buildBoxConfig args parsed (host.order.iter parsed.env) = .ok config ∧
      record = buildRecord host args parsed booted := by
  obtain ⟨_, -, h⟩ := except_bind_ok h
  obtain ⟨parsed, hparsed, h⟩ := except_bind_ok h
  obtain ⟨_, hconfig, h⟩ := except_bind_ok h
  obtain ⟨_, -, h⟩ := except_bind_ok h
  obtain ⟨booted, -, h⟩ := except_bind_ok h
  iterate 4 obtain ⟨_, -, h⟩ := except_bind_ok h
  cases h
  exact ⟨parsed, booted, hparsed, except_mapError_ok.mp hconfig, rfl⟩

/-! ### Starting a box again -/

/-- Two configurations differ at most in the order of the environment. -/
def SameConfig (a b : BoxConfig) : Prop :=
  a.extraEnv.Perm b.extraEnv ∧ { a with extraEnv := [] } = { b with extraEnv := [] }

/-- A configuration without what a record does not have. -/
def forget (config : BoxConfig) (extraEnv : List (String × String)) : BoxConfig :=
  { config with extraEnv, tee := .none, dns := [], sidecar := none, persistent := false }

theorem sameConfig_forget (hperm : extraEnv.Perm config.extraEnv) : SameConfig (forget config extraEnv) config ↔
      config.tee = .none ∧ config.dns = [] ∧ config.sidecar = none ∧ config.persistent = false := by
  constructor
  · rintro ⟨-, hsame⟩
    have htee := congrArg BoxConfig.tee hsame
    have hdns := congrArg BoxConfig.dns hsame
    have hsidecar := congrArg BoxConfig.sidecar hsame
    have hpersistent := congrArg BoxConfig.persistent hsame
    exact ⟨htee.symm, hdns.symm, hsidecar.symm, hpersistent.symm⟩
  · rintro ⟨htee, hdns, hsidecar, hpersistent⟩
    refine ⟨hperm, ?_⟩
    simp [forget, ← htee, ← hdns, ← hsidecar, ← hpersistent]

/-- **What is made of the record** is what the box was booted with, but for the fields a record does not have. -/
theorem configFromRecord_of_execute (h : execute profile host args = .ok (config, record)) (htty : args.tty = false)
    (bindings : ℕ → Binding) (order : Order) :
    configFromRecord bindings order record = .ok (forget config (order.iter record.env)) ∧
      (order.iter record.env).Perm config.extraEnv := by
  obtain ⟨parsed, _, hparsed, hconfig, rfl⟩ := execute_ok h
  obtain ⟨hvalid, hports⟩ := parseArgs_ok hparsed
  obtain ⟨hworkdir, hhostname, _, haddHost⟩ := validateRuntimeOptions_ok hvalid
  obtain ⟨_, huser, hconfig⟩ := except_bind_ok hconfig
  cases hconfig
  have hports' := normalizePortMaps_again hports bindings
  have hhostname' := validateHostnameOption_what "Invalid persisted hostname" hhostname
  refine ⟨?_, (order.perm parsed.env).trans (host.order.perm parsed.env).symm⟩
  simp only [configFromRecord, buildRecord, huser, hworkdir, hports', hhostname', haddHost, htty]
  rfl

theorem buildTeeConfig_eq_none : buildTeeConfig args = .none ↔ args.tee = false ∧ args.teeSimulate = false := by
  unfold buildTeeConfig
  cases args.tee <;> cases args.teeSimulate <;> simp

theorem buildBoxConfig_ok (h : buildBoxConfig args parsed extraEnv = .ok config) :
    config.tee = buildTeeConfig args ∧ config.dns = args.common.dns ∧
      config.sidecar = args.sidecar.map (fun image => ⟨image, args.sidecarVsockPort, []⟩) ∧
      config.persistent = (args.common.persistent || !args.rm) := by
  obtain ⟨_, -, h⟩ := except_bind_ok h
  cases h
  exact ⟨rfl, rfl, rfl, rfl⟩

/-- **When a box is started again, it is started as it was booted** exactly if it has no trusted execution
environment, no DNS servers, no process beside it, and is not kept when it stops. -/
theorem restart_preserves_iff {profile : Profile} {host : Host} {args : RunArgs} {config : BoxConfig}
    {record : BoxRecord} (h : execute profile host args = .ok (config, record)) (htty : args.tty = false)
    (bindings : ℕ → Binding) (order : Order) :
    (∃ rebuilt, configFromRecord bindings order record = .ok rebuilt ∧ SameConfig rebuilt config) ↔
      args.tee = false ∧ args.teeSimulate = false ∧ args.common.dns = [] ∧ args.sidecar = none ∧
        args.common.persistent = false ∧ args.rm = true := by
  obtain ⟨hrebuilt, hperm⟩ := configFromRecord_of_execute h htty bindings order
  obtain ⟨_, _, -, hconfig, -⟩ := execute_ok h
  obtain ⟨htee, hdns, hsidecar, hpersistent⟩ := buildBoxConfig_ok hconfig
  have hfields : (∃ rebuilt, configFromRecord bindings order record = .ok rebuilt ∧ SameConfig rebuilt config) ↔
      config.tee = .none ∧ config.dns = [] ∧ config.sidecar = none ∧ config.persistent = false := by
    rw [hrebuilt, ← sameConfig_forget hperm]
    simp
  rw [hfields, htee, hdns, hsidecar, hpersistent, buildTeeConfig_eq_none]
  simp [and_assoc]

/-- A host on which everything is granted; variables come in the order in which they are stored. -/
def plainHost : Host where
  lib := ⟨fun s => s.map toAsciiLower, fun _ => none, fun _ => .error "No such file or directory (os error 2)"⟩
  checkBindings _ := .chosen 49152 (by decide)
  bindings _ := .chosen 49153 (by decide)
  mountPoint _ name := .ok ("/root/.a3s/volumes/" ++ name)
  order := ⟨fun map => map.entries.map fun var => (var.1, var.2), fun _ => .refl _⟩
  generatedName := "calm_hopper"
  boxId := "0190a3c2-7b1e-4c55-9d0f-2f6f3c1f8a11"
  stdinIsTerminal := false
  connect _ := .ok ()
  boot _ := .ok {}
  home := "/root/.a3s"
  createdAt := 0
  startedAt := 0
  save _ := .ok ()
  attachVolumes _ := .ok ()
  createLogDir := .ok ()

/-- `run --rm -p 0:80 -e A=b -u root --hostname web --add-host db:10.0.0.2 -v data:/data alpine`. -/
def removedBox : RunArgs where
  common :=
    { image := "alpine", publish := ["0:80"], env := ["A=b"], user := some "root", hostname := some "web",
      addHost := ["db:10.0.0.2"], volumes := ["data:/data"] }
  rm := true

/-- `run --dns 1.1.1.1 --tee-simulate --sidecar proxy alpine`. -/
def keptBox : RunArgs where
  common := { image := "alpine", dns := ["1.1.1.1"] }
  teeSimulate := true
  sidecar := some "proxy"

theorem removedBox_restarts : ∃ config record rebuilt, execute .release plainHost removedBox = .ok (config, record) ∧
    configFromRecord plainHost.checkBindings plainHost.order record = .ok rebuilt ∧ SameConfig rebuilt config := by
  have hok : (execute .release plainHost removedBox).isOk = true := by decide +kernel
  obtain ⟨⟨config, record⟩, h⟩ := except_of_isOk hok
  obtain ⟨rebuilt, hrebuilt, hsame⟩ :=
    (restart_preserves_iff h rfl plainHost.checkBindings plainHost.order).mpr ⟨rfl, rfl, rfl, rfl, rfl, rfl⟩
  exact ⟨config, record, rebuilt, h, hrebuilt, hsame⟩

/-- The box is booted in a trusted execution environment, with a DNS server and a process beside it, and is kept;
started again, it has none of them, and is not kept. -/
theorem keptBox_changes : ∃ config record rebuilt, execute .release plainHost keptBox = .ok (config, record) ∧
    configFromRecord plainHost.checkBindings plainHost.order record = .ok rebuilt ∧
    ¬ SameConfig rebuilt config ∧
    (config.tee = .sevSnp "alpine" .milan true ∧ rebuilt.tee = .none) ∧
    (config.dns = ["1.1.1.1"] ∧ rebuilt.dns = []) ∧
    (config.sidecar = some ⟨"proxy", 4092, []⟩ ∧ rebuilt.sidecar = none) ∧
    config.persistent = true ∧ rebuilt.persistent = false := by
  have hok : (execute .release plainHost keptBox).isOk = true := by decide +kernel
  obtain ⟨⟨config, record⟩, h⟩ := except_of_isOk hok
  obtain ⟨hrebuilt, hperm⟩ := configFromRecord_of_execute h rfl plainHost.checkBindings plainHost.order
  obtain ⟨_, _, -, hconfig, -⟩ := execute_ok h
  obtain ⟨htee, hdns, hsidecar, hpersistent⟩ := buildBoxConfig_ok hconfig
  refine ⟨config, record, _, h, hrebuilt, ?_, ⟨htee, rfl⟩, ⟨hdns, rfl⟩, ⟨hsidecar, rfl⟩, hpersistent, rfl⟩
  intro hsame
  have hnone := ((sameConfig_forget hperm).mp hsame).1
  rw [htee] at hnone
  cases hnone

end A3sBox.Boxes
