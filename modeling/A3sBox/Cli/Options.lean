import A3sBox.Build.Parser
import A3sBox.Cli.State
import A3sBox.Core.Options
import A3sBox.Core.Port

/-!
# The options of a box

`cli/src/commands/common.rs`, with what it uses of `core/src/env.rs`, `cli/src/output.rs` and
`cli/src/state/policy.rs`: the options that `run` and `create` have in common. `Lib` is what is asked of the host. A
port that is left to the operating system is one it has chosen, another each time. Multiplying sizes panics or wraps
around.

`normalizePortMaps_again`: port mappings that were normalized once are left as they are.
-/

namespace A3sBox.Boxes

open Text Slices Options

/-- What is not in the repository. -/
structure Lib where
  toLowercase : List Char → List Char
  envVar : String → Option String
  /-- The text of a file, or why it cannot be read. -/
  readToString : String → Except String String

/-- The arguments that `run` and `create` have in common; the values given here are the defaults. -/
structure CommonBoxArgs where
  image : String
  name : Option String := none
  cpus : UInt32 := 2
  memory : String := "512m"
  volumes : List String := []
  env : List String := []
  publish : List String := []
  dns : List String := []
  entrypoint : Option String := none
  hostname : Option String := none
  user : Option String := none
  workdir : Option String := none
  restart : String := "no"
  labels : List String := []
  tmpfs : List String := []
  network : Option String := none
  healthCmd : Option String := none
  healthInterval : UInt64 := 30
  healthTimeout : UInt64 := 5
  healthRetries : UInt32 := 3
  healthStartPeriod : UInt64 := 0
  pidsLimit : Option UInt64 := none
  cpusetCpus : Option String := none
  ulimits : List String := []
  cpuShares : Option UInt64 := none
  cpuQuota : Option Int64 := none
  cpuPeriod : Option UInt64 := none
  memoryReservation : Option String := none
  memorySwap : Option String := none
  envFile : List String := []
  addHost : List String := []
  platform : Option String := none
  init : Bool := false
  readOnly : Bool := false
  capAdd : List String := []
  capDrop : List String := []
  securityOpt : List String := []
  privileged : Bool := false
  device : List String := []
  gpus : Option String := none
  shmSize : Option String := none
  stopSignal : Option String := none
  stopTimeout : Option UInt64 := none
  noHealthcheck : Bool := false
  oomKillDisable : Bool := false
  oomScoreAdj : Option Int32 := none
  persistent : Bool := false

/-! ### The environment -/

/-- A map from texts to texts. -/
abbrev TextMap := AList fun _ : String => String

/-- The map of pairs, of which a later one replaces an earlier one. -/
def collect (pairs : List (String × String)) : TextMap :=
  pairs.foldl (fun map pair => map.insert pair.1 pair.2) ∅

/-- A pair `KEY=VALUE`. -/
def parseEnvVar (var : String) : Except String (String × String) :=
  match splitOnce '=' var.toList with
  | some (key, value) => .ok (String.ofList key, String.ofList value)
  | none => .error s!"Invalid environment variable (expected KEY=VALUE): {var}"

/-- Pairs `KEY=VALUE`. -/
def parseEnvVars (vars : List String) : Except String TextMap := (vars.mapM parseEnvVar).map collect

variable (lib : Lib)

/-- A pair `KEY=VALUE`, or a `KEY` with its value in the environment of the program. -/
def parseRuntimeEnvVar (var : String) : String × String :=
  match splitOnce '=' var.toList with
  | some (key, value) => (String.ofList key, String.ofList value)
  | none => (var, (lib.envVar var).getD "")

/-- A line of a file with an environment; empty lines and comments are skipped. -/
def parseEnvLine (line : List Char) : Option (String × String) :=
  if trimStart line = [] ∨ (trimStart line).head? = some '#' then none
  else
    let line := if line.getLast? = some '\r' then line.dropLast else line
    match splitOnce '=' line with
    | some (key, value) => some (String.ofList (trim key), String.ofList value)
    | none => some (String.ofList (trim line), "")

/-- Read a file of variables. -/
def parseEnvFile (path : String) : Except String TextMap :=
  match lib.readToString path with
  | .error e => .error s!"Failed to read env file '{path}': {e}"
  | .ok content => .ok (collect ((Build.Parser.lines content.toList).filterMap parseEnvLine))

/-- Variables are added where there is none of that name. -/
def orInsert (env vars : TextMap) : TextMap :=
  vars.entries.foldl (fun env var => if var.1 ∈ env then env else env.insert var.1 var.2) env

/-- The environment: what is given directly comes before the files, and an earlier file before a later one. -/
def buildEnvMap (common : CommonBoxArgs) : Except String TextMap :=
  common.envFile.foldlM (fun env file => (parseEnvFile lib file).map (orInsert env))
    (collect (common.env.map (parseRuntimeEnvVar lib)))

/-! ### Sizes -/

variable (profile : Profile)

/-- A product of numbers of so many bits. -/
def mulBits (bits a b : ℕ) : Except (Fault String) ℕ :=
  if profile = .debug ∧ a * b ≥ 2 ^ bits then .error .panic else .ok (a * b % 2 ^ bits)

/-- The text before a given end, if it has it. -/
def stripEnd (ending s : List Char) : Option (List Char) := (stripStart ending.reverse s.reverse).map List.reverse

/-- The text without a given end, at most so many times. -/
def trimEndLoop (ending : List Char) : ℕ → List Char → List Char
  | 0, s => s
  | times + 1, s =>
    match stripEnd ending s with
    | some front => trimEndLoop ending times front
    | none => s

/-- The text without a given end, however often it is there. -/
def trimEndMatches (ending : String) (s : List Char) : List Char := trimEndLoop ending.toList s.length s

/-- The number and the unit of a size, in MB. -/
def memoryUnit (s : List Char) : List Char × ℕ :=
  match stripEnd "g".toList s, stripEnd "gb".toList s, stripEnd "m".toList s, stripEnd "mb".toList s with
  | some n, _, _, _ => (n, 1024)
  | none, some n, _, _ => (n, 1024)
  | none, none, some n, _ => (n, 1)
  | none, none, none, some n => (n, 1)
  | none, none, none, none => (s, 1)

/-- A size, in MB. -/
def parseMemory (s : String) : Except (Fault String) UInt32 :=
  let s := lib.toLowercase (trim s.toList)
  if s = [] then .error (.error "empty memory value")
  else
    let (numStr, multiplier) := memoryUnit s
    match parseInt (2 ^ 32 - 1) numStr with
    | .error _ =>
      let text := String.ofList s
      .error (.error s!"invalid memory value: {text}")
    | .ok num => (mulBits profile 32 num multiplier).map UInt32.ofNat

/-- The number and the unit of a size, in bytes. -/
def memoryBytesUnit (s : List Char) : Option (List Char × ℕ) :=
  let endsWith := fun ending : String => ending.toList.isSuffixOf s
  if endsWith "gb" || endsWith "g" then some (trimEndMatches "g" (trimEndMatches "gb" s), 1024 * 1024 * 1024)
  else if endsWith "mb" || endsWith "m" then some (trimEndMatches "m" (trimEndMatches "mb" s), 1024 * 1024)
  else if endsWith "kb" || endsWith "k" then some (trimEndMatches "k" (trimEndMatches "kb" s), 1024)
  else if endsWith "b" then some (trimEndMatches "b" s, 1)
  else none

/-- Read a size. -/
def parseMemoryBytes (s : String) : Except (Fault String) UInt64 :=
  let s := lib.toLowercase (trim s.toList)
  let text := String.ofList s
  if s = [] then .error (.error "empty value")
  else
    match parseInt (2 ^ 64 - 1) s with
    | .ok bytes => .ok (UInt64.ofNat bytes)
    | .error _ =>
      match memoryBytesUnit s with
      | none => .error (.error s!"unrecognized memory format: {text}")
      | some (numStr, multiplier) =>
        match parseInt (2 ^ 64 - 1) numStr with
        | .error _ =>
          let numStr := String.ofList numStr
          .error (.error s!"invalid number: {numStr}")
        | .ok num => (mulBits profile 64 num multiplier).map UInt64.ofNat

/-- An error is reported with what it is about. -/
def about (what : String) : Fault String → Fault String
  | .error e => .error s!"{what}: {e}"
  | .panic => .panic

/-- A size that may be given. -/
def parseSize (what : String) : Option String → Except (Fault String) (Option UInt64)
  | none => .ok none
  | some s => ((parseMemoryBytes lib profile s).map some).mapError (about what)

/-- The limit of memory and swap; `-1` for none. -/
def parseSwap (s : Option String) : Except (Fault String) (Option Int64) :=
  if s = some "-1" then .ok (some (-1))
  else (parseSize lib profile "Invalid --memory-swap" s).map (Option.map UInt64.toInt64)

/-- Read the limits. -/
def buildResourceLimits (args : CommonBoxArgs) : Except (Fault String) ResourceLimits := do
  let memoryReservation ← parseSize lib profile "Invalid --memory-reservation" args.memoryReservation
  let memorySwap ← parseSwap lib profile args.memorySwap
  .ok
    { pidsLimit := args.pidsLimit
      cpusetCpus := args.cpusetCpus
      ulimits := args.ulimits
      cpuShares := args.cpuShares
      cpuQuota := args.cpuQuota
      cpuPeriod := args.cpuPeriod
      memoryReservation
      memorySwap }

/-! ### When a box is restarted -/

/-- Check a policy. -/
def validateRestartPolicy (policy : String) : Except String Unit :=
  if policy = "no" ∨ policy = "always" ∨ policy = "on-failure" ∨ policy = "unless-stopped" then .ok ()
  else
    match stripStart "on-failure:".toList policy.toList with
    | some max =>
      match parseInt (2 ^ 32 - 1) max with
      | .ok _ => .ok ()
      | .error _ =>
        .error s!"Invalid restart policy '{policy}': expected 'on-failure:N' where N is a positive integer"
    | none =>
      .error s!"Invalid restart policy '{policy}': must be one of: no, always, on-failure, on-failure:N, unless-stopped"

/-- A restart policy, and how often it restarts; 0 for any number. -/
def parseRestartPolicy (policy : String) : Except String (String × UInt32) := do
  validateRestartPolicy policy
  match stripStart "on-failure:".toList policy.toList with
  | none => .ok (policy, 0)
  | some maxStr =>
    match parseInt (2 ^ 32 - 1) maxStr with
    | .ok max => .ok ("on-failure", UInt32.ofNat max)
    | .error _ =>
      let maxStr := String.ofList maxStr
      .error s!"Invalid restart count: {maxStr}"

/-! ### Health and stopping -/

/-- The health check of an image. -/
structure OciHealthCheck where
  test : List String
  interval : Option UInt64
  timeout : Option UInt64
  retries : Option UInt32
  startPeriod : Option UInt64
  deriving DecidableEq, Repr

/-- The command of a health check. -/
def healthCheckCommand : List String → Option (List String)
  | [] => none
  | marker :: args =>
    let isMarker := fun text : String => eqIgnoreAsciiCase marker.toList text.toList
    let cmd :=
      if isMarker "CMD" then args
      else if isMarker "CMD-SHELL" then
        let shellCmd := " ".intercalate args
        if shellCmd = "" then [] else ["sh", "-c", shellCmd]
      else marker :: args
    if isMarker "NONE" ∨ cmd = [] then none else some cmd

/-- The health check of an image, with the defaults. -/
def healthCheckFromOci (healthCheck : OciHealthCheck) : Option HealthCheck :=
  (healthCheckCommand healthCheck.test).map fun cmd =>
    { cmd
      intervalSecs := healthCheck.interval.getD 30
      timeoutSecs := healthCheck.timeout.getD 30
      retries := healthCheck.retries.getD 3
      startPeriodSecs := healthCheck.startPeriod.getD 0 }

/-- The health check of the box. -/
def effectiveHealthCheck (common : CommonBoxArgs) (imageHealthCheck : Option OciHealthCheck) : Option HealthCheck :=
  if common.noHealthcheck then none
  else
    match common.healthCmd with
    | some cmd =>
      some
        { cmd := ["sh", "-c", cmd]
          intervalSecs := common.healthInterval
          timeoutSecs := common.healthTimeout
          retries := common.healthRetries
          startPeriodSecs := common.healthStartPeriod }
    | none => imageHealthCheck.bind healthCheckFromOci

/-- The signal that stops the box. -/
def effectiveStopSignal (cliStopSignal imageStopSignal : Option String) : Option String :=
  let given := fun value : String => !(trim value.toList).isEmpty
  (cliStopSignal.filter given).orElse fun _ => imageStopSignal.filter given

/-! ### Ports -/

/-- What comes of asking the operating system for a port. -/
inductive Binding where
  | chosen (port : UInt16) (assigned : port ≠ 0)
  | bindFails (e : String)
  | addrFails (e : String)

/-- A mapping of which the operating system chooses the port on the host. -/
def resolveAutoHostPort (binding : Binding) (entry : String) : Except String String :=
  match splitOnce ':' entry.toList with
  | none => .ok entry
  | some (host, guest) =>
    if host = ['0'] then
      match binding with
      | .bindFails e => .error s!"failed to allocate a host port for '{entry}': {e}"
      | .addrFails e => .error s!"failed to read allocated host port: {e}"
      | .chosen port _ => .ok (String.ofList (showNat port.toNat ++ ':' :: guest))
    else .ok entry

/-- The mappings, normalized; for each of them there may be a port to ask for. -/
def normalizePortMaps (bindings : ℕ → Binding) (entries : List String) : Except String (List String) := do
  let entries ← Port.normalizePortMaps entries
  entries.zipIdx.mapM fun entry => resolveAutoHostPort (bindings entry.2) entry.1

/-! ### Users and directories -/

/-- A user or a group. -/
def normalizeUserPart (part : List Char) (label original : String) : Except String (List Char) :=
  if part = [] then .error s!"Invalid --user '{original}' ({label} component is empty)"
  else if '\x00' ∈ part then .error s!"Invalid --user '{original}' ({label} contains a NUL byte)"
  else if part = "root".toList then .ok ['0']
  else .ok part

/-- A user, with a group or without. -/
def normalizeUserOption : Option String → Except String (Option String)
  | none => .ok none
  | some user =>
    let user := trim user.toList
    let text := String.ofList user
    if user = [] then .error "--user must not be empty"
    else
      match user.splitOn ':' with
      | [uid] => do
        let uid ← normalizeUserPart uid "user" text
        .ok (some (String.ofList uid))
      | [uid, groupPart] => do
        let uid ← normalizeUserPart uid "user" text
        let gid ← normalizeUserPart groupPart "group" text
        .ok (some (String.ofList (uid ++ ':' :: gid)))
      | _ => .error s!"Invalid --user '{text}' (expected root, UID, or UID:GID)"

/-- Check the working directory. -/
def validateWorkdirOption : Option String → Except String Unit
  | none => .ok ()
  | some workdir =>
    if workdir = "" then .error "--workdir must not be empty"
    else if '\x00' ∈ workdir.toList then .error "--workdir must not contain NUL bytes"
    else .ok ()

/-! ### What is rejected -/

/-- A host name that may be given. -/
def validateHostnameOption (what : String) : Option String → Except String Unit
  | none => .ok ()
  | some hostname => (validateHostname hostname).mapError fun e => s!"{what}: {e}"

/-- A security option of a kind there is not. -/
def rejectSecurityOpt (opt : String) : Except String Unit :=
  let opt := trim opt.toList
  let text := String.ofList opt
  if "apparmor=".toList.isPrefixOf opt then
    .error s!"AppArmor security options are not supported by a3s-box: {text}"
  else if "label=".toList.isPrefixOf opt then
    .error s!"SELinux label security options are not supported by a3s-box: {text}"
  else .ok ()

/-- Check all options. -/
def validateRuntimeOptions (bindings : ℕ → Binding) (common : CommonBoxArgs) : Except String Unit :=
  if common.device ≠ [] then
    .error "--device is not supported by the libkrun backend; device passthrough is not available"
  else if common.gpus.isSome then .error "--gpus is not implemented; GPU passthrough is not available"
  else do
    let _ ← normalizeUserOption common.user
    validateWorkdirOption common.workdir
    let _ ← normalizePortMaps bindings common.publish
    validateHostnameOption "Invalid --hostname" common.hostname
    let _ ← (parseAddHostEntries common.addHost).mapError fun e => s!"Invalid --add-host: {e}"
    common.securityOpt.forM rejectSecurityOpt
    (SecurityConfig.fromOptions common.securityOpt common.capAdd common.capDrop common.privileged).validate

/-! ### Normalizing twice -/

/-- A mapping in its runtime form, with a port on the host. -/
def Settled (entry : String) : Prop :=
  ∃ m : Port.PortMapping, entry = m.runtimeEntry ∧ m.hostPort ≤ 65535 ∧ m.hostPort ≠ 0 ∧ m.guestPort ≤ 65535 ∧
    m.guestPort ≠ 0

theorem showNat_ne_zero {n} (h : n ≠ 0) : showNat n ≠ ['0'] := by
  intro hzero
  have hread : parseDigits n 0 (showNat n) = .ok n := parseDigits_showNat (Nat.le_refl n)
  rw [hzero] at hread
  cases hread
  exact h rfl

theorem splitOnce_runtimeEntry (m : Port.PortMapping) :
    splitOnce ':' m.runtimeEntry.toList = some (showNat m.hostPort, showNat m.guestPort) := by
  rw [Port.PortMapping.runtimeEntry, String.toList_ofList]
  exact splitOnce_append (not_mem_showNat rfl) _

variable {entry : String} {bindings : ℕ → Binding} {entries portMap : List String}

theorem resolveAutoHostPort_of_settled (h : Settled entry) (binding : Binding) :
    resolveAutoHostPort binding entry = .ok entry := by
  obtain ⟨_, rfl, _, hhost, _, _⟩ := h
  rw [resolveAutoHostPort, splitOnce_runtimeEntry]
  exact if_neg (showNat_ne_zero hhost)

theorem settled_of_resolve {m : Port.PortMapping} (hhost : m.hostPort ≤ 65535) (hguest : m.guestPort ≤ 65535)
    (hguest0 : m.guestPort ≠ 0) {binding : Binding} (h : resolveAutoHostPort binding m.runtimeEntry = .ok entry) :
    Settled entry := by
  rw [resolveAutoHostPort, splitOnce_runtimeEntry] at h
  simp only at h
  split_ifs at h with hzero
  · cases binding with
    | bindFails => cases h
    | addrFails => cases h
    | chosen port assigned =>
      cases h
      have hport := port.toNat_lt
      refine ⟨⟨port.toNat, m.guestPort, m.protocol⟩, rfl, ?_, ?_, hguest, hguest0⟩
      · simp only
        omega
      · exact fun heq => assigned (UInt16.toNat_inj.mp heq)
  · cases h
    refine ⟨m, rfl, hhost, fun heq => hzero ?_, hguest, hguest0⟩
    rw [heq]
    rfl

variable (h : normalizePortMaps bindings entries = .ok portMap)

include h

theorem settled_of_normalize : ∀ entry ∈ portMap, Settled entry := by
  intro entry hentry
  obtain ⟨_, hruntime, h⟩ := except_bind_ok h
  obtain ⟨⟨_, _⟩, hmem, hresolve⟩ := (except_mem_iff_of_mapM h).2 _ hentry
  obtain ⟨_, -, hparse⟩ := (except_mem_iff_of_mapM hruntime).2 _ (List.fst_mem_of_mem_zipIdx hmem)
  obtain ⟨_, hm, rfl⟩ := except_map_ok hparse
  obtain ⟨hhost, hguest, hguest0⟩ := Port.parsePortMapping_ok hm
  exact settled_of_resolve hhost hguest hguest0 hresolve

/-- **Port mappings that were normalized are left as they are**, and no port is asked for again. -/
theorem normalizePortMaps_again (bindings' : ℕ → Binding) : normalizePortMaps bindings' portMap = .ok portMap := by
  have hsettled := settled_of_normalize h
  have hcore : Port.normalizePortMaps portMap = .ok (portMap.map id) := by
    refine except_mapM_ok fun entry hentry => ?_
    obtain ⟨_, rfl, hhost, _, hguest, hguest0⟩ := hsettled entry hentry
    rw [Port.parsePortMapping_runtimeEntry hhost hguest hguest0]
    rfl
  have hresolve : (portMap.zipIdx.mapM fun entry => resolveAutoHostPort (bindings' entry.2) entry.1) =
      .ok (portMap.zipIdx.map Prod.fst) := by
    refine except_mapM_ok fun entry hentry => ?_
    exact resolveAutoHostPort_of_settled (hsettled _ (List.fst_mem_of_mem_zipIdx hentry)) _
  rw [normalizePortMaps, hcore, List.map_id]
  rw [List.zipIdx_map_fst] at hresolve
  exact hresolve

omit h

end A3sBox.Boxes
