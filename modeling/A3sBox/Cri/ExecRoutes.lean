import A3sBox.Cri.Capabilities
import A3sBox.Cri.Seccomp
import A3sBox.Guest.Paths

/-!
# The routes into a container

A process is started in a container as its main process, by `exec_sync` (`cri/src/runtime_service/mod.rs`), or over a
stream (`streaming.rs`, `spdy.rs`). Each route makes a request of its own for one of the two servers of the guest.
What is mounted below the root file system stays between processes.

`run_configured`: in a run whose routes carry the configuration, every process is as configured (`Configured`).
Streams carry nothing (`streamed_as_root`): their processes are as configured only if that is what root has
(`stream_configured_iff`).
-/

namespace A3sBox.Cri

open Text Slices Guest List Option

/-! ### Routes -/

/-- How a stream is carried. -/
inductive Transport where
  | webSocket
  | spdy
  deriving DecidableEq, Repr

/-- A route by which a process is started. -/
inductive Route where
  | main
  | execSync (cmd : List (List Char))
  /-- `Exec`, with or without input and a terminal. -/
  | stream (transport : Transport) (stdin tty : Bool) (cmd : List (List Char))

variable (launch : Launch)

/-- The root file system of a request. -/
def Launch.rootfs : Option (List Char) :=
  if launch.rootfsGuestPath = [] then none else some launch.rootfsGuestPath

/-- The request of `exec_sync`: of the environment only the control entries go along. -/
def Launch.execSyncRequest (cmd : List (List Char)) : Request where
  cmd
  env := ((launch.plain ++ launch.entries.map fun entry => (entry.1.text, entry.2)).filter fun entry =>
    secStart.isPrefixOf entry.1).map entryText
  workingDir := none
  rootfs := launch.rootfs
  user := launch.user

/-- The request of a stream, which all four handlers make alike: neither the environment nor the user goes along. -/
def Launch.streamRequest (cmd : List (List Char)) : Request where
  cmd
  env := []
  workingDir := none
  rootfs := launch.rootfs
  user := none

/-- Start a process by a route. -/
def Route.start (machine : Machine) (launch : Launch) (masks : Masks) : Route → Masks × Except String Process
  | .main => startContainer machine masks launch
  | .execSync cmd => execStart machine masks (launch.execSyncRequest cmd)
  | .stream _ _ tty cmd =>
    if cmd = [] then (masks, .error "Exec command must contain at least one argument")
    else if tty then (masks, ptyStart machine (launch.streamRequest cmd))
    else execStart machine masks (launch.streamRequest cmd)

/-- What comes of routes that are taken one after another. -/
def starts (machine : Machine) (launch : Launch) : Masks → List Route → List (Masks × Except String Process)
  | _, [] => []
  | masks, route :: routes =>
    let outcome := route.start machine launch masks
    outcome :: starts machine launch outcome.1 routes

/-! ### What is configured -/

/-- The user that is configured. -/
def userText (image : ImageConfig) (config : ContainerConfig) : Option (List Char) :=
  (config.securityContext.bind containerUser).orElse fun _ => image.user

variable (config : ContainerConfig)

/-- The groups that are configured. -/
def ContainerConfig.groups : List ℤ :=
  (config.securityContext.map SecurityContext.supplementalGroups).getD []

/-- The paths that are to be hidden. -/
def ContainerConfig.masked : List (List Char) :=
  (config.securityContext.map SecurityContext.maskedPaths).getD []

/-- The paths that are not to be written. -/
def ContainerConfig.readonly : List (List Char) :=
  (config.securityContext.map SecurityContext.readonlyPaths).getD []

/-- It is privileged. -/
def ContainerConfig.privileged : Bool :=
  (config.securityContext.map SecurityContext.privileged).getD false

/-- It may not gain privileges. -/
def ContainerConfig.noNewPrivs : Bool :=
  (config.securityContext.map fun sc => sc.noNewPrivs && !sc.privileged).getD false

/-- The profile of system calls. -/
def ContainerConfig.profile : Option SecurityProfile :=
  config.securityContext.bind seccompProfile

/-- The filter is that of the profile. -/
def FilterRight (arch : Arch) (abi : Abi) (host : Host) (filter : Option (List Bpf.Insn)) : Option SecurityProfile → Prop
  | none => filter = none
  | some ⟨.unconfined, _⟩ => filter = none
  | some ⟨.runtimeDefault, _⟩ => filter = some (buildDefaultBpfFilter arch)
  | some ⟨.localhost, localhostRef⟩ =>
    match parseLocalhostSeccompDeny host localhostRef with
    | .error _ => filter = some (buildDefaultBpfFilter arch)
    | .ok deny => ∀ name ∈ deny, ∀ call ∈ abi name, ∃ insns ∈ filter, Denies insns call.1 call.2

/-- What the configuration asks of a process, with what is mounted when it is started. -/
structure Configured (machine : Machine) (abi : Abi) (host : Host) (image : ImageConfig) (config : ContainerConfig)
    (launch : Launch) (masks : Masks) (process : Process) : Prop where
  user : ((userText image config).elim (some (0, 0)) fun text =>
    (machine.etc (launch.rootfs.getD ['/'])).wanted text) = some (process.uid, process.gid)
  groups : ∀ g ∈ config.groups, ∃ n ∈ process.groups, (n : ℤ) = g
  others : ∀ n ∈ process.groups, (n : ℤ) ∈ config.groups ∨ ∃ text ∈ userText image config,
    n ∈ resolveImageGroups (machine.etc (launch.rootfs.getD ['/'])) process.uid (some process.gid) text
  capabilities : ∀ n, process.bounding.getLsbD n = true ↔
    if config.privileged then n < 41 else Wanted config.add config.drop n
  /-- It may gain privileges unless that is forbidden. -/
  noNewPrivs : process.noNewPrivs = config.noNewPrivs
  filter : FilterRight machine.arch abi host process.filter config.profile
  masked : ∀ path ∈ config.masked, Hidden machine masks (launch.rootfsGuestPath ++ path)
  readonly : ∀ path ∈ config.readonly, Unwritable machine masks (launch.rootfsGuestPath ++ path)

/-! ### When it arrives -/

/-- The configuration survives the way into the exec server. -/
structure Carries (machine : Machine) (abi : Abi) (host : Host) (image : ImageConfig) (config : ContainerConfig)
    (launch : Launch) : Prop where
  user : ∀ text ∈ userText image config, (machine.etc (launch.rootfs.getD ['/'])).Honours text
  groups : ∀ g ∈ config.groups, 0 ≤ g ∧ g ≤ 2 ^ 32 - 1
  capabilities : config.privileged = false → ({ config with tty := false } : ContainerConfig).ListsAgree
  /-- Where there is a profile of system calls, new privileges are forbidden too. -/
  noNewPrivs : (∃ profile ∈ config.profile, profile.profileType ≠ .unconfined) → config.noNewPrivs = true
  profile : ∀ localhostRef deny, config.profile = some ⟨.localhost, localhostRef⟩ →
    parseLocalhostSeccompDeny host localhostRef = .ok deny → Enforceable machine.arch abi deny false
  rootfs : launch.rootfsGuestPath ≠ []
  masked : ∀ path ∈ config.masked, Maskable machine launch.rootfsGuestPath path
  /-- The read-only paths can be made so. -/
  readonly : ∀ path ∈ config.readonly, Lockable machine launch.rootfsGuestPath path

/-- The configuration asks for nothing that a process of root does not have. -/
structure AsksNothing (image : ImageConfig) (config : ContainerConfig) : Prop where
  user : userText image config = none
  groups : config.groups = []
  privileged : config.privileged = true
  masked : config.masked = []
  /-- There is nothing to make read-only. -/
  readonly : config.readonly = []

/-- The configuration asks for what a process of root has that sees what is mounted. -/
structure AsksRoot (machine : Machine) (abi : Abi) (host : Host) (image : ImageConfig) (config : ContainerConfig)
    (launch : Launch) (masks : Masks) : Prop where
  user : ((userText image config).elim (some (0, 0)) fun text =>
    (machine.etc (launch.rootfs.getD ['/'])).wanted text) = some (0, 0)
  groups : config.groups = []
  /-- Every capability is asked for. -/
  capabilities : ∀ n, n < 41 ↔ if config.privileged then n < 41 else Wanted config.add config.drop n
  noNewPrivs : config.noNewPrivs = false
  filter : FilterRight machine.arch abi host none config.profile
  masked : ∀ path ∈ config.masked, Hidden machine masks (launch.rootfsGuestPath ++ path)
  readonly : ∀ path ∈ config.readonly, Unwritable machine masks (launch.rootfsGuestPath ++ path)

/-- The route carries the configuration: it goes to the exec server with the control entries. -/
def Route.Carrying : Route → Prop
  | .main => launch.tty = false
  | .execSync _ => True
  | .stream .. => False

/-! ### Requests that carry the control entries -/

/-- A request has the control entries, the user and the root file system of the container. -/
structure Carried (launch : Launch) (request : Request) : Prop where
  value : ∀ key, envValue key request.env = envValue key launch.toExecRequest.env
  is : ∀ key value, envIs key value request.env = envIs key value launch.toExecRequest.env
  user : request.user = launch.user
  rootfs : request.rootfs = launch.rootfs

theorem carried_main : Carried launch launch.toExecRequest := ⟨fun _ => rfl, fun _ _ => rfl, rfl, rfl⟩

theorem readGroups {groups : List ℤ} (h : ∀ g ∈ groups, 0 ≤ g ∧ g ≤ 2 ^ 32 - 1) :
    (((groups.map showInt).flatMap (pieces (· == ','))).filterMap fun gid => number? (trim gid)) =
      groups.map Int.toNat := by
  induction groups with
  | nil => rfl
  | cons g _ ih =>
    obtain ⟨hlow, _⟩ := h g mem_cons_self
    have htext : showInt g = showNat g.natAbs := by rw [showInt, if_neg (not_lt.mpr hlow)]
    have htrim : trim (showNat g.natAbs) = showNat g.natAbs := trim_eq_self fun _ hc => isWhitespace_of_mem_showNat hc
    have hcomma : ',' ∉ showNat g.natAbs := not_mem_showNat (by decide)
    rw [map_cons, flatMap_cons, htext, pieces_of_not_mem hcomma, singleton_append, filterMap_cons,
      htrim, number?_showNat (by omega), ih fun g hg => h g (mem_cons_of_mem _ hg), map_cons]
    have habs : g.natAbs = g.toNat := by omega
    rw [habs]

theorem readPaths {paths : List (List Char)} (h : ∀ path ∈ paths, ':' ∉ path ∧ isSafe path = true) :
    (paths.flatMap (pieces (· == ':'))).filter (· ≠ []) = paths := by
  induction paths with
  | nil => rfl
  | cons path _ ih =>
    obtain ⟨hcolon, hsafe⟩ := h path mem_cons_self
    have hne : path ≠ [] := by
      rintro rfl
      cases hsafe
    rw [flatMap_cons, pieces_of_not_mem hcolon, singleton_append, filter_cons_of_pos (by simpa using hne),
      ih fun path hpath => h path (mem_cons_of_mem _ hpath)]

variable {key : SecKey} {masks : Masks} {process : Process} {request : Request}

section Created

variable {host : Host} {image : ImageConfig} {rootfs : List Char} {config : ContainerConfig} {launch : Launch}
  (hcreated : createContainer host image rootfs config = .ok launch)
include hcreated

theorem carried_execSync (cmd : List (List Char)) : Carried launch (launch.execSyncRequest cmd) := by
  obtain ⟨hplain, -, -⟩ := createContainer_ok hcreated
  have hforeign : ∀ entry ∈ launch.plain, ¬ secStart <+: entry.1 := hplain ▸ plainEnv_foreign image config
  have henv : (launch.execSyncRequest cmd).env = envTexts [] launch.entries := by
    have hnone : launch.plain.filter (fun entry => secStart.isPrefixOf entry.1) = [] := by
      refine filter_eq_nil_iff.mpr fun entry hentry hstart => ?_
      exact hforeign entry hentry (List.isPrefixOf_iff_prefix.mp hstart)
    have hall : (launch.entries.map fun entry => (entry.1.text, entry.2)).filter
        (fun entry => secStart.isPrefixOf entry.1) = launch.entries.map fun entry => (entry.1.text, entry.2) := by
      refine filter_eq_self.mpr fun entry hentry => ?_
      obtain ⟨control, -, rfl⟩ := mem_map.mp hentry
      exact isPrefixOf_iff_prefix.mpr control.1.secStart_text
    rw [Launch.execSyncRequest, envTexts, filter_append, hnone, hall]
  have hnil : ∀ entry ∈ ([] : List (List Char × List Char)), ¬ secStart <+: entry.1 :=
    fun entry h => absurd h not_mem_nil
  refine ⟨fun key => ?_, fun key value => ?_, rfl, rfl⟩
  · rw [henv, envValue_envTexts hnil, Launch.toExecRequest, envValue_envTexts hforeign]
  · rw [henv, Bool.eq_iff_iff, envIs_envTexts hnil, Launch.toExecRequest, envIs_envTexts hforeign]

theorem createContainer_tty (tty : Bool) :
    createContainer host image rootfs { config with tty } = .ok { launch with tty } := by
  obtain ⟨_, hcheck, h⟩ := except_bind_ok hcreated
  cases h
  change (checkSecurity host config.securityContext).bind _ = _
  rw [hcheck]
  rfl

theorem launch_user : launch.user = userText image config := by
  obtain ⟨-, -, h⟩ := except_bind_ok hcreated
  cases h
  rfl

/-- What a row of the security context says arrives with every request that carries the entries. -/
theorem value_carried (hcarried : Carried launch request)
    (hkey : key ∉ [SecKey.memLimit, .cpuQuota, .cpuPeriod, .cpuShares]) :
    envValue key request.env = config.securityContext.bind fun sc => ((securityRows host sc).lookup key).join := by
  rw [hcarried.value, envValue_container hcreated, lookup_rows host config hkey]

variable {request : Request} (hcarried : Carried launch request)
include hcarried

/-- The groups arrive if they are numbers of 32 bits. -/
theorem supplementalGroups_carried (hgroups : ∀ g ∈ config.groups, 0 ≤ g ∧ g ≤ 2 ^ 32 - 1) :
    supplementalGroups request.env = config.groups.map Int.toNat := by
  rw [supplementalGroups, value_carried hcreated hcarried (by decide)]
  rcases hsc : config.securityContext with _ | sc
  · rw [ContainerConfig.groups, hsc]
    rfl
  · have hconfig : config.groups = sc.supplementalGroups := by rw [ContainerConfig.groups, hsc]; rfl
    rw [hconfig] at hgroups ⊢
    change ((if (!sc.supplementalGroups.isEmpty) then some (joinWith ',' (sc.supplementalGroups.map showInt))
      else none).map _).getD [] = _
    by_cases hnil : sc.supplementalGroups = []
    · rw [hnil]
      rfl
    · have hnotEmpty : (!sc.supplementalGroups.isEmpty) = true := by simpa using hnil
      rw [if_pos hnotEmpty, map_some, pieces_joinWith ',' (by simpa using hnil)]
      exact readGroups hgroups

theorem paths_carried {paths : SecurityContext → List (List Char)}
    (hkey : key ∉ [SecKey.memLimit, .cpuQuota, .cpuPeriod, .cpuShares])
    (hrow : ∀ sc, (securityRows host sc).lookup key =
      some (if !(paths sc).isEmpty then some (joinWith ':' (paths sc)) else none))
    (hplain : ∀ path ∈ (config.securityContext.map paths).getD [], ':' ∉ path ∧ isSafe path = true) :
    parseSecPathList request.env key = (config.securityContext.map paths).getD [] := by
  rw [parseSecPathList, value_carried hcreated hcarried hkey]
  rcases hsc : config.securityContext with _ | sc
  · rfl
  · rw [hsc] at hplain
    rw [bind_some, hrow, join_some, map_some]
    by_cases hnil : paths sc = []
    · rw [hnil]
      rfl
    · have hnotEmpty : (!(paths sc).isEmpty) = true := by simpa using hnil
      rw [if_pos hnotEmpty, map_some, pieces_joinWith ':' hnil]
      exact readPaths hplain

/-- The capabilities of a process, for a container that is privileged or whose lists agree with the program. -/
theorem getLsbD_carried (hupper : ∀ c : Char, c.toNat < 128 → host.toUppercase c = [c.toUpper])
    (hspelled : ∀ entry ∈ config.add ++ config.drop, Spelled entry)
    (hlists : config.privileged = false → ({ config with tty := false } : ContainerConfig).ListsAgree) (n : ℕ) :
    (envMask request.env).getLsbD n = true ↔
      if config.privileged then n < 41 else Wanted config.add config.drop n := by
  have hsame : envMask request.env = envMask launch.toExecRequest.env := by
    rw [envMask, envMask, capKeep, capKeep, capDrop, capDrop, hcarried.value, hcarried.value]
  rw [hsame]
  by_cases hprivileged : config.privileged = true
  · have hkeep : config.securityContext.bind (capabilitiesToKeep host) = none := by
      rcases hsc : config.securityContext with _ | sc
      · rfl
      · rw [ContainerConfig.privileged, hsc, map_some, getD_some] at hprivileged
        rw [bind_some, capabilitiesToKeep, if_pos hprivileged]
    rw [envMask_container hcreated, hkeep, if_pos hprivileged]
    exact getLsbD_fullMask n
  · have hnot : ∀ sc ∈ config.securityContext, sc.privileged = false := by
      intro sc hsc
      rw [ContainerConfig.privileged, mem_def.mp hsc] at hprivileged
      exact Bool.eq_false_iff.mpr hprivileged
    rw [if_neg hprivileged]
    exact ((keptRight_iff hupper (createContainer_tty hcreated false) hnot hspelled).mpr
      (hlists (Bool.eq_false_iff.mpr hprivileged))).1 n

/-- A profile that is not accepted, or none, leaves the filter of the runtime, or none. -/
theorem envFilter_default (arch : Arch) (hdeny : config.securityContext.bind (localhostDeny host) = none) :
    (envFilter arch request.env).map installed =
      if config.securityContext.any (usesDefaultFilter host) then some (buildDefaultBpfFilter arch) else none := by
  have hnames : seccompLocalhost request.env = [] := by
    rw [seccompLocalhost, hcarried.value, ← seccompLocalhost, seccompLocalhost_container hcreated, hdeny]
    rfl
  have hinstalled : installed (buildDefaultBpfFilter arch) = buildDefaultBpfFilter arch := by
    cases arch <;> exact installed_of_lt (by decide)
  rw [envFilter, hnames, if_neg (not_not.mpr rfl), hcarried.is, envIs_default_container hcreated]
  split
  · rw [map_some, hinstalled]
  · rfl

/-- The filter of a process whose request carries the entries and that the kernel has taken is that of the profile. -/
theorem filterRight_carried (arch : Arch) (abi : Abi)
    (hprofile : ∀ localhostRef deny, config.profile = some ⟨.localhost, localhostRef⟩ →
      parseLocalhostSeccompDeny host localhostRef = .ok deny → Enforceable arch abi deny false)
    (htaken : ∀ filter ∈ (envFilter arch request.env).map installed, Bpf.check filter = true) :
    FilterRight arch abi host ((envFilter arch request.env).map installed) config.profile := by
  rcases hsc : config.securityContext with _ | sc
  · have hnone : config.profile = none := by rw [ContainerConfig.profile, hsc]; rfl
    rw [hnone, envFilter_default hcreated hcarried arch (by rw [hsc]; rfl), hsc]
    rfl
  · have hconfig : config.profile = seccompProfile sc := by rw [ContainerConfig.profile, hsc]; rfl
    rw [hconfig] at hprofile ⊢
    rcases hkind : seccompProfile sc with _ | ⟨_ | _ | _, localhostRef⟩
    case some.some.localhost =>
      rcases haccepted : parseLocalhostSeccompDeny host localhostRef with _ | deny
      · have hdeny : localhostDeny host sc = none := by
          simp only [localhostDeny, hkind, haccepted, Except.toOption]
        have huses : usesDefaultFilter host sc = true := by
          simp only [usesDefaultFilter, hkind, haccepted, Except.toOption, isNone_none]
        rw [envFilter_default hcreated hcarried arch (by rw [hsc]; exact hdeny), hsc, any_some, huses]
        simp [FilterRight, haccepted]
      · obtain ⟨hseccomp, hnot⟩ := filter_eq_some_iff.mp hkind
        have hsame : envFilter arch request.env = mainFilter arch { launch with tty := false } := by
          rw [envFilter, seccompLocalhost, hcarried.value, hcarried.is]
          rfl
        have hfalse := createContainer_tty hcreated false
        have hprivileged : sc.privileged = false := by simpa using hnot
        rw [hsame] at htaken ⊢
        simp only [FilterRight, haccepted]
        rcases (honoured_iff arch abi hfalse hsc hprivileged hseccomp haccepted).mpr
          (hprofile localhostRef deny hkind haccepted) with hback | ⟨filter, hfilter, hrefused⟩ | hdenies
        · exact absurd hback (not_fallsBack hfalse hsc hprivileged hseccomp haccepted)
        · rw [htaken _ (mem_map_of_mem _ hfilter)] at hrefused
          cases hrefused
        · intro name hname call hcall
          obtain ⟨_, hfilter, hdenied⟩ := hdenies name hname call hcall
          exact ⟨_, mem_map_of_mem _ hfilter, hdenied⟩
    all_goals
      have hdeny : localhostDeny host sc = none := by rw [localhostDeny, hkind]
      rw [envFilter_default hcreated hcarried arch (by rw [hsc]; exact hdeny), hsc, any_some, usesDefaultFilter, hkind]
      rfl

/-- New privileges are forbidden exactly if that is asked for, where a filter comes only with that. -/
theorem noNewPrivs_carried (arch : Arch)
    (hprofile : (∃ profile ∈ config.profile, profile.profileType ≠ .unconfined) → config.noNewPrivs = true) :
    (envIs .noNewPrivs "1" request.env || (envFilter arch request.env).isSome) = config.noNewPrivs := by
  have hentry : envIs .noNewPrivs "1" request.env = config.noNewPrivs := by
    rw [Bool.eq_iff_iff, hcarried.is, envIs_container hcreated, lookup_rows host config (by decide),
      ContainerConfig.noNewPrivs]
    rcases config.securityContext with _ | sc
    · exact iff_of_false (by rintro ⟨⟩) Bool.false_ne_true
    · change (if sc.noNewPrivs && !sc.privileged then some ['1'] else none) = _ ↔
        (sc.noNewPrivs && !sc.privileged) = true
      by_cases hgiven : (sc.noNewPrivs && !sc.privileged) = true
      · rw [if_pos hgiven]
        exact iff_of_true rfl hgiven
      · rw [if_neg hgiven]
        exact iff_of_false (by rintro ⟨⟩) hgiven
  rw [hentry]
  by_cases hgiven : config.noNewPrivs = true
  · rw [hgiven, Bool.true_or]
  · -- without that there is no profile, or one that says to filter nothing
    have hparts : config.securityContext.bind (localhostDeny host) = none ∧
        config.securityContext.any (usesDefaultFilter host) = false := by
      rcases hsc : config.securityContext with _ | sc
      · exact ⟨rfl, rfl⟩
      · have hconfig : config.profile = seccompProfile sc := by rw [ContainerConfig.profile, hsc]; rfl
        rw [bind_some, any_some, localhostDeny, usesDefaultFilter]
        rcases hkind : seccompProfile sc with _ | ⟨_ | _ | _, _⟩
        · exact ⟨rfl, rfl⟩
        · exact absurd (hprofile ⟨_, hconfig.trans hkind, by rintro ⟨⟩⟩) hgiven
        · exact ⟨rfl, rfl⟩
        · exact absurd (hprofile ⟨_, hconfig.trans hkind, by rintro ⟨⟩⟩) hgiven
    have hnone : envFilter arch request.env = none := by
      refine map_eq_none_iff.mp ((envFilter_default hcreated hcarried arch hparts.1).trans ?_)
      rw [hparts.2, if_neg Bool.false_ne_true]
    rw [hnone, isSome_none, Bool.or_false]

end Created

/-! ### Every route -/

theorem AsksNothing.noNewPrivs {image config} (hasks : AsksNothing image config) :
    config.noNewPrivs = false ∧ config.profile = none := by
  have hprivileged := hasks.privileged
  rw [ContainerConfig.privileged] at hprivileged
  rw [ContainerConfig.noNewPrivs, ContainerConfig.profile]
  rcases hsc : config.securityContext with _ | _
  · rw [hsc] at hprivileged
    cases hprivileged
  · rw [hsc, map_some, getD_some] at hprivileged
    simp [seccompProfile, hprivileged]

section Routes

variable {machine : Machine} {abi : Abi} {host : Host} {image : ImageConfig} {rootfs : List Char}
  {config : ContainerConfig} {launch : Launch}
  (hcreated : createContainer host image rootfs config = .ok launch)

theorem configured_of_asksNothing (hasks : AsksNothing image config) (hidentity : (process.uid, process.gid) = (0, 0))
    (hgroups : process.groups = []) (hmask : ∀ n, process.bounding.getLsbD n = true ↔ n < 41)
    (hprivs : process.noNewPrivs = config.noNewPrivs)
    (hfilter : FilterRight machine.arch abi host process.filter config.profile) :
    Configured machine abi host image config launch masks process := by
  refine ⟨?_, ?_, ?_, ?_, hprivs, hfilter, ?_, ?_⟩
  · rw [hasks.user, hidentity]
    rfl
  · rw [hasks.groups]
    exact fun g hg => absurd hg not_mem_nil
  · rw [hgroups]
    exact fun n hn => absurd hn not_mem_nil
  · intro n
    rw [hasks.privileged]
    exact hmask n
  · rw [hasks.masked]
    exact fun path hpath => absurd hpath not_mem_nil
  · rw [hasks.readonly]
    exact fun path hpath => absurd hpath not_mem_nil

include hcreated

variable (hupper : ∀ c : Char, c.toNat < 128 → host.toUppercase c = [c.toUpper])
  (hspelled : ∀ entry ∈ config.add ++ config.drop, Spelled entry)

include hupper hspelled in
/-- **A process for a request that carries the entries is as configured**, if the configuration survives the way. -/
theorem exec_configured (hcarries : Carries machine abi host image config launch) (hcarried : Carried launch request)
    (h : (execStart machine masks request).2 = .ok process) :
    Configured machine abi host image config launch (execStart machine masks request).1 process := by
  have htaken := (execStart_envelope h).2
  obtain ⟨user, huser, rfl, -, hmounts⟩ := execStart_ok h
  have hrootfs : request.rootfs = some launch.rootfsGuestPath := by
    rw [hcarried.rootfs, Launch.rootfs, if_neg hcarries.rootfs]
  have hmounted := hmounts launch.rootfsGuestPath hrootfs
  have hmasked : parseSecPathList request.env .maskedPaths = config.masked :=
    paths_carried hcreated hcarried (by decide) (fun _ => rfl)
      fun path hpath => ⟨(hcarries.masked path hpath).colon, (hcarries.masked path hpath).safe⟩
  have hreadonly : parseSecPathList request.env .readonlyPaths = config.readonly :=
    paths_carried hcreated hcarried (by decide) (fun _ => rfl)
      fun path hpath => ⟨(hcarries.readonly path hpath).colon, (hcarries.readonly path hpath).safe⟩
  have hgiven := supplementalGroups_carried hcreated hcarried hcarries.groups
  have htext : request.user = userText image config := hcarried.user.trans (launch_user hcreated)
  refine ⟨?_, ?_, ?_, ?_, ?_, ?_, ?_, ?_⟩
  · have hidentity : ∀ user, ((execProcess machine request user).uid, (execProcess machine request user).gid) =
        identity user := fun user => by cases user <;> rfl
    rw [hidentity, ← hcarried.rootfs]
    rcases hnamed : userText image config with _ | text
    · rw [execUser_none huser (htext.trans hnamed)]
      rfl
    · obtain ⟨hne, hresolved⟩ := execUser_identity huser (htext.trans hnamed)
      rw [hresolved]
      exact (wanted_iff hne).mpr (hcarried.rootfs ▸ hcarries.user text hnamed)
  · intro g hg
    refine ⟨g.toNat, (mem_execGroups hrootfs _).mpr (.inl ?_), Int.toNat_of_nonneg (hcarries.groups g hg).1⟩
    rw [hgiven]
    exact List.mem_map_of_mem hg
  · intro n hn
    rcases (mem_execGroups hrootfs n).mp hn with hn | ⟨u, hu, himage⟩
    · rw [hgiven] at hn
      obtain ⟨g, hg, rfl⟩ := List.mem_map.mp hn
      left
      rwa [Int.toNat_of_nonneg (hcarries.groups g hg).1]
    · -- there is a user, and a process without a group has that of root
      rcases hnamed : userText image config with _ | text
      · rw [execUser_none huser (htext.trans hnamed)] at hu
        cases hu
      · refine .inr ⟨text, rfl, ?_⟩
        rw [htext, hnamed] at himage
        rw [← hcarried.rootfs, hrootfs]
        cases Option.mem_def.mp hu
        rcases hgid : u.gid with _ | _
        · have hprimary := execUser_gid huser hgid
          rw [hrootfs, Option.getD_some] at hprimary
          rw [hgid] at himage
          -- the groups of a user without a group are among those with the group of root
          have hentry := Option.map_eq_none_iff.mp hprimary
          simp only [execProcess, resolveImageGroups, Option.map_some, Option.getD_some, hentry, List.mem_reverse,
            List.mem_dedup, List.mem_append] at himage ⊢
          rcases himage with himage | himage
          · cases himage
          · exact .inr himage
        · rw [hgid] at himage
          simpa [execProcess, hgid] using himage
  · exact getLsbD_carried hcreated hcarried hupper hspelled hcarries.capabilities
  · exact noNewPrivs_carried hcreated hcarried machine.arch hcarries.noNewPrivs
  · exact filterRight_carried hcreated hcarried machine.arch abi hcarries.profile (htaken.1 ▸ htaken.2)
  · intro path hpath
    rw [hmounted]
    exact restrict_hidden (fun path h => hcarries.masked path (hmasked ▸ h)) masks path (hmasked ▸ hpath)
  · intro path hpath
    rw [hmounted]
    exact restrict_unwritable (fun path h => hcarries.readonly path (hreadonly ▸ h)) masks path (hreadonly ▸ hpath)

omit hcreated in
theorem rootProcess_configured (hasks : AsksNothing image config) (masks : Masks) :
    Configured machine abi host image config launch masks rootProcess := by
  obtain ⟨hprivs, hprofile⟩ := hasks.noNewPrivs
  refine configured_of_asksNothing hasks rfl rfl getLsbD_fullMask hprivs.symm ?_
  rw [hprofile]
  rfl

include hupper hspelled in
theorem carried_asksNothing (hasks : AsksNothing image config)
    (hcarried : Carried launch request) (h : (execStart machine masks request).2 = .ok process) :
    Configured machine abi host image config launch (execStart machine masks request).1 process := by
  obtain ⟨_, hprofile⟩ := hasks.noNewPrivs
  have htaken := (execStart_envelope h).2
  obtain ⟨user, huser, rfl, -, -⟩ := execStart_ok h
  have hnone : user = none := execUser_none huser (by rw [hcarried.user, launch_user hcreated, hasks.user])
  subst hnone
  have hgiven : supplementalGroups request.env = [] := by
    rw [supplementalGroups_carried hcreated hcarried (by rw [hasks.groups]; exact fun _ h => absurd h List.not_mem_nil),
      hasks.groups, List.map_nil]
  refine configured_of_asksNothing hasks rfl hgiven (fun n => ?_) ?_ ?_
  · have hbits := getLsbD_carried hcreated hcarried hupper hspelled
      (fun hnot => absurd (hasks.privileged.symm.trans hnot) Bool.noConfusion) n
    rwa [hasks.privileged] at hbits
  · refine noNewPrivs_carried hcreated hcarried machine.arch ?_
    rintro ⟨_, hmem, -⟩
    rw [hprofile] at hmem
    cases hmem
  · refine filterRight_carried hcreated hcarried machine.arch abi ?_ (htaken.1 ▸ htaken.2)
    intro localhostRef deny hsome
    rw [hprofile] at hsome
    cases hsome

omit hcreated in
/-- **A process over a stream is as configured** exactly if the configuration asks for what root has. -/
theorem stream_configured_iff {transport stdin tty cmd}
    (h : ((Route.stream transport stdin tty cmd).start machine launch masks).2 = .ok process) :
    Configured machine abi host image config launch
        ((Route.stream transport stdin tty cmd).start machine launch masks).1 process ↔
      AsksRoot machine abi host image config launch
        ((Route.stream transport stdin tty cmd).start machine launch masks).1 := by
  obtain rfl : process = rootProcess := by
    rw [Route.start] at h
    split_ifs at h
    · exact ptyStart_root rfl h
    · exact execStart_root rfl rfl h
  constructor
  · intro hconfigured
    have hgroups : config.groups = [] := by
      refine eq_nil_iff_forall_not_mem.mpr fun g hg => ?_
      obtain ⟨_, hn, -⟩ := hconfigured.groups g hg
      exact absurd hn not_mem_nil
    exact ⟨hconfigured.user, hgroups, fun n => (getLsbD_fullMask n).symm.trans (hconfigured.capabilities n),
      hconfigured.noNewPrivs.symm, hconfigured.filter, hconfigured.masked, hconfigured.readonly⟩
  · intro hasks
    refine ⟨hasks.user, ?_, fun n hn => absurd hn not_mem_nil,
      fun n => (getLsbD_fullMask n).trans (hasks.capabilities n), hasks.noNewPrivs.symm, hasks.filter, hasks.masked,
      hasks.readonly⟩
    rw [hasks.groups]
    exact fun g hg => absurd hg not_mem_nil

include hupper hspelled in
/-- **A process that is started by a route is as configured**, if the route carries the configuration and it survives the
way, or if nothing is asked for. -/
theorem route_configured {route : Route}
    (hroute : route.Carrying launch ∧ Carries machine abi host image config launch ∨ AsksNothing image config)
    (h : (route.start machine launch masks).2 = .ok process) :
    Configured machine abi host image config launch (route.start machine launch masks).1 process := by
  have hexec {request : Request} (hcarried : Carried launch request)
      (hcase : Carries machine abi host image config launch ∨ AsksNothing image config)
      (h : (execStart machine masks request).2 = .ok process) :
      Configured machine abi host image config launch (execStart machine masks request).1 process := by
    rcases hcase with hcarries | hasks
    · exact exec_configured hcreated hupper hspelled hcarries hcarried h
    · exact carried_asksNothing hcreated hupper hspelled hasks hcarried h
  cases route with
  | main =>
    rw [Route.start, startContainer] at h ⊢
    split_ifs at h ⊢ with hcmd htty
    · rcases hroute with ⟨hcarrying, -⟩ | hasks
      · exact absurd (htty.symm.trans hcarrying) Bool.noConfusion
      · have huser : launch.toExecRequest.user = none := (launch_user hcreated).trans hasks.user
        rw [ptyStart_root huser h]
        exact rootProcess_configured hasks _
    · exact hexec (carried_main launch) (hroute.imp_left And.right) h
  | execSync cmd => exact hexec (carried_execSync hcreated cmd) (hroute.imp_left And.right) h
  | stream =>
    rcases hroute with ⟨hcarrying, -⟩ | hasks
    · exact hcarrying.elim
    · rw [Route.start] at h ⊢
      split_ifs at h ⊢
      · rw [ptyStart_root rfl h]
        exact rootProcess_configured hasks _
      · rw [execStart_root rfl rfl h]
        exact rootProcess_configured hasks _

/-- **If all routes carry the configuration, or nothing is asked for, every process that is started is as configured.**
-/
theorem run_configured (hupper : ∀ c : Char, c.toNat < 128 → host.toUppercase c = [c.toUpper])
    (hspelled : ∀ entry ∈ config.add ++ config.drop, Spelled entry) {routes : List Route}
    (hroutes : ∀ route ∈ routes,
      route.Carrying launch ∧ Carries machine abi host image config launch ∨ AsksNothing image config)
    (masks : Masks) : ∀ outcome ∈ starts machine launch masks routes, ∀ process, outcome.2 = .ok process →
      Configured machine abi host image config launch outcome.1 process := by
  induction routes generalizing masks with
  | nil => exact fun _ h => absurd h not_mem_nil
  | cons _ _ ih =>
    obtain ⟨hroute, hlater⟩ := forall_mem_cons.mp hroutes
    exact forall_mem_cons.mpr
      ⟨fun _ hprocess => route_configured hcreated hupper hspelled hroute hprocess, ih hlater _⟩

end Routes

/-! ### One container -/

/-- A guest that permits everything, with a small image. -/
def openMachine : Machine where
  toKernel := openKernel
  arch := .x86_64
  etc := fun _ => smallEtc
  kind := fun _ => .other
  through := fun _ => false
  metadata := fun _ => some true
  mountpoint := fun _ => false
  readonlyFs := fun _ => false
  mount := fun _ => true
  setpgid := true
  chroot := fun _ _ => true
  chdir := fun _ => true
  capset := fun _ => true
  setNoNewPrivs := true
  seccomp := true
  openpty := true
  exec := fun _ => true
  failure := fun _ => ""

/-- A container with a user, a group, a filter, a masked path and a read-only path. -/
def webConfig : ContainerConfig := idConfig (some {
  capabilities := none, privileged := false, runAsUser := some 1000, runAsGroup := none, runAsUsername := []
  readonlyRootfs := false, supplementalGroups := [2000], noNewPrivs := true, maskedPaths := ["/proc/kcore".toList]
  readonlyPaths := ["/proc/sys".toList], seccomp := some ⟨.runtimeDefault, []⟩, apparmor := none
  apparmorProfile := [] })

/-- The container is made of it. -/
def webLaunch : Launch where
  cmd := ["id".toList]
  plain := []
  entries := present (rows plainHost webConfig)
  workingDir := []
  user := some "1000".toList
  tty := false
  rootfsGuestPath := "/run/a3s/c".toList

/-- Nothing is mounted. -/
def noMasks : Masks := ⟨[], [], []⟩

/-- What it should run with. -/
def webProcess : Process where
  uid := 1000
  gid := 1000
  groups := [2000, 1000]
  bounding := envMask webLaunch.toExecRequest.env
  noNewPrivs := true
  filter := some (buildDefaultBpfFilter .x86_64)

theorem web_carries : Carries openMachine someAbi plainHost bareImage webConfig webLaunch := by
  refine ⟨?_, ?_, ?_, ?_, ?_, ?_, ?_, ?_⟩
  · rintro text ⟨⟩
    refine .inl ⟨?_, ?_⟩
    · change userNumber smallEtc.passwd "1000".toList ≠ none
      decide +kernel
    · intro hroot
      exact absurd hroot (by decide)
  · intro g hg
    rw [mem_singleton.mp hg]
    decide
  · intro _
    have hnil (n : ℕ) : ¬ HasName [] n := by
      rintro ⟨_, h, -⟩
      cases h
    have hall : ¬ HasAll [] := by
      rintro ⟨_, h, -⟩
      cases h
    refine ⟨?_, fun _ n => ⟨fun h => hnil n h.2.1, fun h => hnil n (h.2.2.2 hall), fun h => hall h.2.1⟩⟩
    rintro (h | h | h)
    · cases h
    · cases h
    · exact absurd (hasAll_of_plain h) hall
  · exact fun _ => rfl
  · rintro localhostRef deny ⟨⟩
  · exact cons_ne_nil _ _
  · intro path hpath
    rw [mem_singleton.mp hpath]
    exact ⟨by decide, by decide, fun _ => ⟨rfl, rfl, rfl⟩⟩
  · intro path hpath
    rw [mem_singleton.mp hpath]
    exact ⟨by decide, by decide, fun _ => ⟨some_ne_none _, by rintro ⟨⟩, rfl, rfl, rfl⟩⟩

theorem probe_configured : ((Route.execSync ["id".toList]).start openMachine webLaunch noMasks).2 = .ok webProcess ∧
      Configured openMachine someAbi plainHost bareImage webConfig webLaunch
        ((Route.execSync ["id".toList]).start openMachine webLaunch noMasks).1 webProcess := by
  have hstarted : ((Route.execSync ["id".toList]).start openMachine webLaunch noMasks).2 = .ok webProcess := by
    decide +kernel
  refine ⟨hstarted, ?_⟩
  refine @run_configured openMachine someAbi plainHost bareImage "/run/a3s/c".toList webConfig webLaunch rfl
    (fun _ _ => rfl) (fun entry h => absurd h not_mem_nil) [.execSync ["id".toList]] ?_ noMasks
    _ mem_cons_self webProcess hstarted
  intro route hroute
  rw [mem_singleton.mp hroute]
  exact .inl ⟨trivial, web_carries⟩

/-- **A process that is started over a stream runs as root, with all capabilities and no filter, and sees every path.**
-/
theorem streamed_as_root : createContainer plainHost bareImage "/run/a3s/c".toList webConfig = .ok webLaunch ∧
      ((Route.stream .spdy false false ["id".toList]).start openMachine webLaunch noMasks).2 = .ok rootProcess ∧
      ((Route.stream .spdy false false ["id".toList]).start openMachine webLaunch noMasks).1.masked = [] ∧
      ¬ Configured openMachine someAbi plainHost bareImage webConfig webLaunch
        ((Route.stream .spdy false false ["id".toList]).start openMachine webLaunch noMasks).1 rootProcess := by
  refine ⟨rfl, by decide +kernel, by decide +kernel, fun h => ?_⟩
  have huser : smallEtc.wanted "1000".toList = some (0, 0) := h.user
  cases huser

end A3sBox.Cri
