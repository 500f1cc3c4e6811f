import A3sBox.Guest.Exec
import Mathlib.Data.List.Sort

/-!
# What confines a container

`create_container` of `cri/src/runtime_service/mod.rs` turns the security context of a container into control entries
of its environment. `Host` has what is not part of the program: upper-case letters, files, and the parser of profiles.
The entries are a table in the order in which the source adds them. What is checked before and the root file system
are left out.

`control_entries_derived`: nothing that the image or the pod has set in a control entry makes a difference.
-/

namespace A3sBox.Cri

open Text Slices Guest List Option

/-! ### The configuration -/

/-- The capabilities that are asked for. -/
structure Capability where
  addCapabilities : List (List Char)
  dropCapabilities : List (List Char)

/-- The kinds of profiles. -/
inductive ProfileType where
  | runtimeDefault
  | unconfined
  | localhost
  deriving DecidableEq, Repr

/-- A profile. -/
structure SecurityProfile where
  profileType : ProfileType
  localhostRef : List Char

/-- The security context of a container. -/
structure SecurityContext where
  capabilities : Option Capability
  privileged : Bool
  runAsUser : Option ℤ
  runAsGroup : Option ℤ
  runAsUsername : List Char
  /-- The root file system cannot be written. -/
  readonlyRootfs : Bool
  supplementalGroups : List ℤ
  noNewPrivs : Bool
  maskedPaths : List (List Char)
  readonlyPaths : List (List Char)
  seccomp : Option SecurityProfile
  apparmor : Option SecurityProfile
  /-- The AppArmor profile in its older form. -/
  apparmorProfile : List Char

/-- Limits of a container. -/
structure Resources where
  cpuPeriod : ℤ
  cpuQuota : ℤ
  cpuShares : ℤ
  memoryLimitInBytes : ℤ

/-- The configuration of a container. -/
structure ContainerConfig where
  command : List (List Char)
  args : List (List Char)
  workingDir : List Char
  envs : List (List Char × List Char)
  resources : Option Resources
  securityContext : Option SecurityContext
  tty : Bool

/-- What is taken from the image. -/
structure ImageConfig where
  entrypoint : Option (List (List Char))
  cmd : Option (List (List Char))
  env : List (List Char × List Char)
  workingDir : Option (List Char)
  user : Option (List Char)

/-- A rule of a profile of system calls. -/
structure OciSeccompSyscall where
  names : List (List Char)
  action : String

/-- A profile of system calls. -/
structure OciSeccompProfile where
  /-- What is done with every other system call. -/
  defaultAction : String
  syscalls : List OciSeccompSyscall

/-- What is not part of the program. -/
structure Host where
  toUppercase : Char → List Char
  apparmorProfiles : Option (List Char)
  readToString : List Char → Except String (List Char)
  parseProfile : List Char → Except String OciSeccompProfile

/-! ### Capabilities -/

/-- `DEFAULT_CAPABILITIES`. -/
def defaultCapabilities : List String :=
  ["CHOWN", "DAC_OVERRIDE", "FSETID", "FOWNER", "MKNOD", "NET_RAW", "SETGID", "SETUID", "SETFCAP", "SETPCAP",
    "NET_BIND_SERVICE", "SYS_CHROOT", "KILL", "AUDIT_WRITE"]

/-- The order of texts. -/
def textLe (a b : List Char) : Bool := !(b.lex a fun c d => decide (c < d))

variable (host : Host)

/-- A name without its beginning, in upper case. Only a beginning in upper case is removed. -/
def normalizeCapability (cap : List Char) : List Char :=
  ((stripStart capStart (trim cap)).getD (trim cap)).flatMap host.toUppercase

/-- `kept_capabilities`: the capabilities that a container keeps, in order; `none` if it keeps them all. -/
def keptCapabilities (capabilities : Option Capability) : Option (List (List Char)) :=
  let add := ((capabilities.map Capability.addCapabilities).getD []).map (normalizeCapability host)
  let drop := ((capabilities.map Capability.dropCapabilities).getD []).map (normalizeCapability host)
  if add.contains "ALL".toList then none
  else
    let kept :=
      if drop.contains "ALL".toList then []
      else (defaultCapabilities.map String.toList).filter fun cap => !drop.contains cap
    some ((kept ++ add).dedup.insertionSort fun a b => textLe a b)

/-! ### Profiles -/

/-- `apparmor_profile_loaded`: the first word of a line is the name. -/
def apparmorProfileLoaded (name : List Char) : Bool :=
  match host.apparmorProfiles with
  | none => false
  | some content => (pieces (· == '\n') content).any fun line => (splitWhitespace line).head? == some name

variable (sc : SecurityContext)

/-- The AppArmor profile of the host that is asked for. -/
def apparmorLocalhost : Option (List Char) :=
  ((sc.apparmor.filter fun profile => profile.profileType = .localhost).map SecurityProfile.localhostRef).orElse fun _ =>
    stripStart "localhost/".toList sc.apparmorProfile

/-- The actions that deny a system call. -/
def denyActions : List String := ["SCMP_ACT_ERRNO", "SCMP_ACT_KILL", "SCMP_ACT_KILL_THREAD", "SCMP_ACT_KILL_PROCESS"]

/-- The system calls that a profile denies. -/
def OciSeccompProfile.deny (profile : OciSeccompProfile) : List (List Char) :=
  (profile.syscalls.filter fun rule => denyActions.contains rule.action).flatMap OciSeccompSyscall.names

/-- `parse_localhost_seccomp_deny`. -/
def parseLocalhostSeccompDeny (localhostRef : List Char) : Except String (List (List Char)) :=
  let name := String.ofList localhostRef
  match host.readToString localhostRef with
  | .error e => .error s!"read seccomp profile {name}: {e}"
  | .ok raw =>
    match host.parseProfile raw with
    | .error e => .error s!"parse seccomp profile: {e}"
    | .ok profile =>
      let action := profile.defaultAction
      if action = "SCMP_ACT_ALLOW" ∨ action = "SCMP_ACT_LOG" then .ok profile.deny
      else .error s!"unsupported seccomp defaultAction {action} (only allow-default profiles are supported)"

/-! ### Control entries -/

/-- A number as text. -/
def showInt (z : ℤ) : List Char := if z < 0 then '-' :: showNat z.natAbs else showNat z.natAbs

/-- A line of the table. -/
def row (key : SecKey) (given : Bool) (value : List Char) : SecKey × Option (List Char) :=
  (key, if given then some value else none)

/-- The lines of the limits. -/
def resourceRows : Option Resources → List (SecKey × Option (List Char))
  | none => []
  | some resources =>
    [row .memLimit (resources.memoryLimitInBytes > 0) (showInt resources.memoryLimitInBytes),
      row .cpuQuota (resources.cpuQuota > 0) (showInt resources.cpuQuota),
      row .cpuPeriod (resources.cpuQuota > 0 && resources.cpuPeriod > 0) (showInt resources.cpuPeriod),
      row .cpuShares (resources.cpuShares > 0) (showInt resources.cpuShares)]

/-- The profile of system calls; a privileged container has none. -/
def seccompProfile : Option SecurityProfile := sc.seccomp.filter fun _ => !sc.privileged

/-- The system calls that the profile of the host denies, if it is accepted. -/
def localhostDeny : Option (List (List Char)) :=
  match seccompProfile sc with
  | some ⟨.localhost, localhostRef⟩ => (parseLocalhostSeccompDeny host localhostRef).toOption
  | _ => none

/-- The filter of the runtime is used: it is asked for, or the profile of the host is not accepted. -/
def usesDefaultFilter : Bool :=
  match seccompProfile sc with
  | some ⟨.runtimeDefault, _⟩ => true
  | some ⟨.localhost, localhostRef⟩ => (parseLocalhostSeccompDeny host localhostRef).toOption.isNone
  | _ => false

/-- The capabilities that are kept, if some are removed. -/
def capabilitiesToKeep : Option (List (List Char)) :=
  if sc.privileged then none else keptCapabilities host sc.capabilities

/-- The lines of the security context. -/
def securityRows : List (SecKey × Option (List Char)) :=
  [row .supplementalGroups (!sc.supplementalGroups.isEmpty) (joinWith ',' (sc.supplementalGroups.map showInt)),
    row .maskedPaths (!sc.maskedPaths.isEmpty) (joinWith ':' sc.maskedPaths),
    row .readonlyPaths (!sc.readonlyPaths.isEmpty) (joinWith ':' sc.readonlyPaths),
    row .seccomp (usesDefaultFilter host sc) "default".toList,
    (.seccompLocalhost, (localhostDeny host sc).map (joinWith ',')),
    (.capKeep, (capabilitiesToKeep host sc).map (joinWith ',')),
    row .noNewPrivs (sc.noNewPrivs && !sc.privileged) ['1'],
    row .readonlyRootfs sc.readonlyRootfs ['1']]

/-- The whole table. -/
def rows (config : ContainerConfig) : List (SecKey × Option (List Char)) :=
  resourceRows config.resources ++ (config.securityContext.map (securityRows host)).getD []

/-- The entries that are there. -/
def present (table : List (SecKey × Option (List Char))) : List (SecKey × List Char) :=
  table.filterMap fun line => line.2.map fun value => (line.1, value)

/-! ### Creating a container -/

/-- `merge_env`: what the pod sets replaces what the image sets. -/
def mergeEnv (imageEnv criEnv : List (List Char × List Char)) : List (List Char × List Char) :=
  criEnv.foldl (fun merged kv =>
    if merged.any fun entry => entry.1 == kv.1 then
      merged.modify (merged.findIdx fun entry => entry.1 == kv.1) fun _ => kv
    else merged ++ [kv]) imageEnv

/-- The environment of the image and of the pod, without what looks like a control entry. -/
def plainEnv (image : ImageConfig) (config : ContainerConfig) : List (List Char × List Char) :=
  (mergeEnv image.env config.envs).filter fun entry => !secStart.isPrefixOf entry.1

/-- `container_user_from_linux_config`. -/
def containerUser : Option (List Char) :=
  if sc.runAsUsername ≠ [] then some sc.runAsUsername
  else
    match sc.runAsUser, sc.runAsGroup with
    | some user, some group => some (showInt user ++ ':' :: showInt group)
    | some user, none => some (showInt user)
    | none, _ => none

/-- `resolve_command_and_args`, put together. -/
def resolveCommand (config : ContainerConfig) (image : ImageConfig) : List (List Char) :=
  if config.command ≠ [] then config.command ++ config.args
  else image.entrypoint.getD [] ++ if config.args = [] then image.cmd.getD [] else config.args

/-- What is refused. -/
def checkSecurity : Option SecurityContext → Except Status Unit
  | none => .ok ()
  | some sc =>
    if sc.runAsGroup.isSome ∧ sc.runAsUser = none ∧ sc.runAsUsername = [] then
      .error ⟨.invalidArgument, "run_as_group must not be set without run_as_user or run_as_username"⟩
    else
      match (apparmorLocalhost sc).map trim with
      | none => .ok ()
      | some profile =>
        let name := String.ofList profile
        if profile = [] ∨ apparmorProfileLoaded host profile = false then
          .error ⟨.failedPrecondition, s!"AppArmor profile 'localhost/{name}' is not loaded"⟩
        else .ok ()

/-- What is kept of a container to start its processes. -/
structure Launch where
  cmd : List (List Char)
  plain : List (List Char × List Char)
  entries : List (SecKey × List Char)
  workingDir : List Char
  user : Option (List Char)
  tty : Bool
  rootfsGuestPath : List Char

/-- `create_container`, for an image that was found and a root file system that was prepared. -/
def createContainer (image : ImageConfig) (rootfsGuestPath : List Char) (config : ContainerConfig) :
    Except Status Launch := do
  checkSecurity host config.securityContext
  .ok {
    cmd := resolveCommand config image
    plain := plainEnv image config
    entries := present (rows host config)
    workingDir := if config.workingDir = [] then image.workingDir.getD [] else config.workingDir
    user := (config.securityContext.bind containerUser).orElse fun _ => image.user
    tty := config.tty
    rootfsGuestPath }

/-- `to_exec_request`: the request for the main process. -/
def Launch.toExecRequest (launch : Launch) : Request where
  cmd := launch.cmd
  env := envTexts launch.plain launch.entries
  workingDir := if launch.workingDir = [] then none else some launch.workingDir
  rootfs := if launch.rootfsGuestPath = [] then none else some launch.rootfsGuestPath
  user := launch.user

/-- `start_container`: the main process goes to the terminal server if it has a terminal. -/
def startContainer (machine : Machine) (masks : Masks) (launch : Launch) : Masks × Except String Process :=
  if launch.cmd = [] then
    (masks, .error ("resolved container command is empty; " ++
      "set CRI command/args or use an image with ENTRYPOINT/CMD"))
  else if launch.tty then (masks, ptyStart machine launch.toExecRequest)
  else execStart machine masks launch.toExecRequest

/-! ### What the guest reads -/

variable {table : List (SecKey × Option (List Char))} {key : SecKey} {host : Host} {image : ImageConfig}
  {rootfs : List Char} {config : ContainerConfig} {launch : Launch}

theorem lookup_eq_none_of_not_mem (h : key ∉ table.map Prod.fst) : table.lookup key = none := by
  rw [lookup_eq_none_iff]
  intro line hline
  rw [bne_iff_ne]
  rintro rfl
  exact h (mem_map_of_mem hline)

theorem lookup_present (h : (table.map Prod.fst).Nodup) (key) :
    (present table).lookup key = (table.lookup key).join := by
  induction table with
  | nil => rfl
  | cons line table ih =>
    obtain ⟨hnot, hnodup⟩ := nodup_cons.mp h
    obtain ⟨other, value⟩ := line
    by_cases hkey : key = other
    · subst hkey
      rw [lookup_cons, beq_self_eq_true]
      cases value with
      | none =>
        have hrest : (present table).lookup key = none := by
          rw [ih hnodup, lookup_eq_none_of_not_mem hnot, join_none]
        exact hrest
      | some =>
        rw [present]
        simp
    · rw [lookup_cons, beq_false_of_ne hkey, ← ih hnodup]
      cases value with
      | none => rfl
      | some =>
        rw [present, filterMap_cons]
        simp only [map_some, lookup_cons, beq_false_of_ne hkey]
        rfl

variable {given : Option (List Char)}

theorem lookup_of_mem (h : (table.map Prod.fst).Nodup) (hmem : (key, given) ∈ table) :
    table.lookup key = some given := by
  induction table with
  | nil => cases hmem
  | cons line _ ih =>
    obtain ⟨hnot, hnodup⟩ := nodup_cons.mp h
    rw [lookup_cons]
    rcases mem_cons.mp hmem with rfl | hmem
    · rw [beq_self_eq_true]
    · have hkey : key ≠ line.1 := by
        rintro rfl
        exact hnot (mem_map.mpr ⟨_, hmem, rfl⟩)
      rw [beq_false_of_ne hkey]
      exact ih hnodup hmem

theorem mem_of_lookup (h : table.lookup key = some given) : (key, given) ∈ table := by
  obtain ⟨_, _, rfl, -⟩ := lookup_eq_some_iff.mp h
  exact mem_append_right _ mem_cons_self

theorem mem_present (h : (table.map Prod.fst).Nodup) {value} :
    (key, value) ∈ present table ↔ (table.lookup key).join = some value := by
  rw [join_eq_some_iff, present, mem_filterMap]
  constructor
  · rintro ⟨⟨_, _⟩, hmem, hvalue⟩
    obtain ⟨_, rfl, heq⟩ := map_eq_some_iff.mp hvalue
    cases heq
    exact lookup_of_mem h hmem
  · intro hlookup
    exact ⟨(key, some value), mem_of_lookup hlookup, rfl⟩

theorem rows_nodup (host) (config) : ((rows host config).map Prod.fst).Nodup := by
  rw [rows]
  rcases config.resources with _ | _ <;> rcases config.securityContext with _ | _
  all_goals
    simp only [resourceRows, securityRows, row, map_none, map_some, getD_some, nil_append, cons_append, map_cons]
    decide

variable (h : createContainer host image rootfs config = .ok launch)

include h

theorem createContainer_ok :
    launch.plain = plainEnv image config ∧ launch.entries = present (rows host config) ∧ launch.tty = config.tty := by
  obtain ⟨-, -, h⟩ := except_bind_ok h
  cases h
  exact ⟨rfl, rfl, rfl⟩

omit h in
theorem plainEnv_foreign (image) (config) :
    ∀ entry ∈ plainEnv image config, ¬ secStart <+: entry.1 := by
  intro entry hentry hstart
  have hkept := (mem_filter.mp hentry).2
  rw [List.isPrefixOf_iff_prefix.mpr hstart] at hkept
  cases hkept

/-- **The guest reads of a control entry what the row of the container says.** -/
theorem envValue_container (key) :
    envValue key launch.toExecRequest.env = ((rows host config).lookup key).join := by
  obtain ⟨hplain, hentries, -⟩ := createContainer_ok h
  rw [Launch.toExecRequest, hplain, hentries, envValue_envTexts (plainEnv_foreign image config),
    lookup_present (rows_nodup host config)]

theorem envIs_container (key) (value : String) :
    envIs key value launch.toExecRequest.env = true ↔ ((rows host config).lookup key).join = some value.toList := by
  obtain ⟨hplain, hentries, -⟩ := createContainer_ok h
  rw [Launch.toExecRequest, hplain, hentries, envIs_envTexts (plainEnv_foreign image config),
    mem_present (rows_nodup host config)]

omit h

theorem lookup_rows (host) (config)
    (hkey : key ∉ [SecKey.memLimit, .cpuQuota, .cpuPeriod, .cpuShares]) :
    ((rows host config).lookup key).join = config.securityContext.bind fun sc =>
      ((securityRows host sc).lookup key).join := by
  have hresources : (resourceRows config.resources).lookup key = none := by
    rcases config.resources with _ | _
    · rfl
    · exact lookup_eq_none_of_not_mem hkey
  rw [rows, lookup_append, hresources]
  cases config.securityContext <;> rfl

/-! ### Control entries that others have set -/

/-- An environment without what looks like a control entry. -/
def withoutSec (env : List (List Char × List Char)) : List (List Char × List Char) :=
  env.filter fun entry => !secStart.isPrefixOf entry.1

section Merge

variable (kv : List Char × List Char) (env podEnv : List (List Char × List Char))

theorem mergeEnv_cons_one (entry : List Char × List Char) :
    mergeEnv (entry :: env) [kv] = if entry.1 = kv.1 then kv :: env else entry :: mergeEnv env [kv] := by
  by_cases hkey : entry.1 = kv.1
  · simp [mergeEnv, hkey, findIdx_cons]
  · simp only [mergeEnv, foldl_cons, any_cons, beq_false_of_ne hkey, Bool.false_or, findIdx_cons]
    split_ifs
    · rfl
    · rfl

theorem withoutSec_merge_one : withoutSec (mergeEnv env [kv]) = mergeEnv (withoutSec env) (withoutSec [kv]) := by
  induction env with
  | nil => cases hsec : secStart.isPrefixOf kv.1 <;> simp [withoutSec, mergeEnv, hsec]
  | cons entry env ih =>
    rw [mergeEnv_cons_one]
    cases hkv : secStart.isPrefixOf kv.1 with
    | true =>
      have hnone : ∀ env, mergeEnv env (withoutSec [kv]) = env := by simp [withoutSec, hkv, mergeEnv]
      rw [hnone] at ih ⊢
      split_ifs with hkey
      · simp [withoutSec, hkey, hkv]
      · simp only [withoutSec, filter_cons] at ih ⊢
        rw [ih]
    | false =>
      have hone : withoutSec [kv] = [kv] := by simp [withoutSec, hkv]
      rw [hone] at ih ⊢
      split_ifs with hkey
      · simp [withoutSec, hkey, hkv, mergeEnv_cons_one]
      · simp only [withoutSec, filter_cons] at ih ⊢
        split_ifs
        · rw [mergeEnv_cons_one, if_neg hkey, ih]
        · exact ih

theorem withoutSec_mergeEnv : withoutSec (mergeEnv env podEnv) = mergeEnv (withoutSec env) (withoutSec podEnv) := by
  induction podEnv generalizing env with
  | nil => rfl
  | cons kv podEnv ih =>
    have hsplit : withoutSec (kv :: podEnv) = withoutSec [kv] ++ withoutSec podEnv := filter_append [kv] podEnv
    show withoutSec (mergeEnv (mergeEnv env [kv]) podEnv) = _
    rw [ih, withoutSec_merge_one, hsplit]
    exact (foldl_append ..).symm

end Merge

/-- **The control entries of a container are those of the runtime**: the guest reads of each what the row of the
container says, whatever looks like a control entry in the environment of the image or of the pod. -/
theorem control_entries_derived (host : Host) (image : ImageConfig) (rootfs : List Char) (config : ContainerConfig) :
    (∀ launch, createContainer host image rootfs config = .ok launch → ∀ key,
      envValue key launch.toExecRequest.env = ((rows host config).lookup key).join ∧
        ∀ value, envIs key value launch.toExecRequest.env = true ↔
          ((rows host config).lookup key).join = some value.toList) ∧
    ∀ imageEnv podEnv, withoutSec imageEnv = withoutSec image.env → withoutSec podEnv = withoutSec config.envs →
      createContainer host { image with env := imageEnv } rootfs { config with envs := podEnv } =
        createContainer host image rootfs config := by
  refine ⟨fun launch h key => ⟨envValue_container h key, envIs_container h key⟩, fun imageEnv podEnv himage hpod => ?_⟩
  have hplain : plainEnv { image with env := imageEnv } { config with envs := podEnv } = plainEnv image config := by
    show withoutSec (mergeEnv imageEnv podEnv) = withoutSec (mergeEnv image.env config.envs)
    rw [withoutSec_mergeEnv, himage, hpod, ← withoutSec_mergeEnv]
  rw [createContainer, hplain]
  rfl

end A3sBox.Cri
