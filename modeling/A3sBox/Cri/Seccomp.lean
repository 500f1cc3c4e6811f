import A3sBox.Cri.SecurityEnv

/-!
# Profiles of system calls

`parse_localhost_seccomp_deny` of `cri/src/runtime_service/mod.rs` takes the denied system calls from a profile; in
the guest `syscall_name_to_number` looks their names up and `build_seccomp_errno_filter` makes a filter. `Abi` says by
which calls, each an architecture and a number, a kernel is asked for a system call; it may know more names than the
guest.

`profile_iff`: when an accepted profile is honoured by the main process. What the guest has no name for is not denied:
`unlinkat_allowed`.
-/

namespace A3sBox.Cri

open Text Slices Guest Option

/-- The calls by which a kernel can be asked for a system call: an architecture and a number. -/
abbrev Abi := List Char → List (ℕ × ℕ)

variable (arch : Arch)

/-- The filter of the main process. -/
def mainFilter (launch : Launch) : Option (List Bpf.Insn) :=
  if launch.tty then none else envFilter arch launch.toExecRequest.env

/-- The runtime uses its own filter. -/
def FallsBack (launch : Launch) : Prop :=
  launch.tty = false ∧ seccompLocalhost launch.toExecRequest.env = [] ∧
    envIs .seccomp "default" launch.toExecRequest.env = true

/-- The kernel does not take the filter, so the process is not started. -/
def FilterRefused (launch : Launch) : Prop :=
  ∃ filter ∈ mainFilter arch launch, Bpf.check (installed filter) = false

/-- The filter denies every call of the system calls in a list. -/
def DeniesAll (abi : Abi) (deny : List (List Char)) (launch : Launch) : Prop :=
  ∀ name ∈ deny, ∀ call ∈ abi name, ∃ filter ∈ mainFilter arch launch, Denies (installed filter) call.1 call.2

/-- The profile is honoured. -/
def Honoured (abi : Abi) (deny : List (List Char)) (launch : Launch) : Prop :=
  FallsBack launch ∨ FilterRefused arch launch ∨ DeniesAll arch abi deny launch

/-- The numbers of the names that the guest knows, in order. A name with a comma is read as several. -/
def knownNumbers (deny : List (List Char)) : List ℕ :=
  (deny.flatMap commaList).filterMap (syscallNameToNumber arch)

/-- The filter denies a call. -/
def CallDenied (numbers : List ℕ) (call : ℕ × ℕ) : Prop :=
  (call.1 = arch.audit → call.2 ∈ Bpf.reaching numbers) ∧
    (call.1 ≠ arch.audit → numbers.length ≤ 253 ∨
      (if (numbers.length + 2) % 256 = 0 then call.2 else call.1) ∈ Bpf.reaching numbers)

/-- The profile can be enforced: nothing that it denies can be called; or there is no terminal, the profile has a name,
and either the filter is longer than the kernel takes or every call is denied. -/
def Enforceable (abi : Abi) (deny : List (List Char)) (tty : Bool) : Prop :=
  (∀ name ∈ deny, abi name = []) ∨
    (tty = false ∧ deny.flatMap commaList ≠ [] ∧
      (4096 < (knownNumbers arch deny).length + 6 ∨
        ∀ name ∈ deny, ∀ call ∈ abi name, CallDenied arch (knownNumbers arch deny) call))

/-! ### The filter of the container -/

theorem denies_iff (numbers : List ℕ) (call : ℕ × ℕ) :
    Denies (buildSeccompErrnoFilter arch numbers) call.1 call.2 ↔ CallDenied arch numbers call := by
  by_cases hnative : call.1 = arch.audit
  · rw [CallDenied, hnative, denies_native]
    exact ⟨fun h => ⟨fun _ => h, fun hne => absurd rfl hne⟩, fun h => h.1 rfl⟩
  · rw [denies_foreign arch numbers hnative]
    exact ⟨fun h => ⟨fun heq => absurd heq hnative, fun _ => h⟩, fun h => h.2 hnative⟩

section Accepted

variable {host : Host} {image : ImageConfig} {rootfs : List Char} {config : ContainerConfig} {launch : Launch}
  (hcreated : createContainer host image rootfs config = .ok launch)
include hcreated

/-- The names of an accepted profile arrive in the guest. -/
theorem seccompLocalhost_container : seccompLocalhost launch.toExecRequest.env =
    ((config.securityContext.bind (localhostDeny host)).getD []).flatMap commaList := by
  rw [seccompLocalhost, envValue_container hcreated, lookup_rows host config (by decide)]
  rcases config.securityContext with _ | sc
  · rfl
  · change ((((localhostDeny host sc).map (joinWith ',')) : Option _).map commaList).getD [] = _
    rw [bind_some]
    rcases localhostDeny host sc with _ | deny
    · rfl
    · exact commaList_joinWith deny

theorem envIs_default_container :
    envIs .seccomp "default" launch.toExecRequest.env = config.securityContext.any (usesDefaultFilter host) := by
  rw [Bool.eq_iff_iff, envIs_container hcreated, lookup_rows host config (by decide)]
  rcases config.securityContext with _ | sc
  · exact iff_of_false (by rintro ⟨⟩) Bool.false_ne_true
  · change (if usesDefaultFilter host sc then some "default".toList else none) = _ ↔ usesDefaultFilter host sc = true
    by_cases huses : usesDefaultFilter host sc = true
    · rw [if_pos huses]
      exact iff_of_true rfl huses
    · rw [if_neg huses]
      exact iff_of_false (by rintro ⟨⟩) huses

variable {sc : SecurityContext} {deny : List (List Char)}
  (hsc : config.securityContext = some sc) (hprivileged : sc.privileged = false)
  (hprofile : sc.seccomp = some ⟨.localhost, localhostRef⟩)
  (haccepted : parseLocalhostSeccompDeny host localhostRef = .ok deny)
include hsc hprivileged hprofile haccepted

/-- An accepted profile is not replaced by the filter of the runtime. -/
theorem not_envIs_default : envIs .seccomp "default" launch.toExecRequest.env = false := by
  rw [envIs_default_container hcreated, hsc, any_some, usesDefaultFilter, seccompProfile, hprofile, hprivileged]
  simp only [Bool.not_false, filter_some, if_true, haccepted, Except.toOption, isNone_some]

theorem mainFilter_container (arch) : mainFilter arch launch =
    if config.tty = true ∨ deny.flatMap commaList = [] then none
    else some (buildSeccompErrnoFilter arch (knownNumbers arch deny)) := by
  obtain ⟨-, -, htty⟩ := createContainer_ok hcreated
  have hdeny : localhostDeny host sc = some deny := by
    rw [localhostDeny, seccompProfile, hprofile, hprivileged]
    simp only [Bool.not_false, filter_some, if_true, haccepted, Except.toOption]
  have hnames := seccompLocalhost_container hcreated
  rw [hsc, bind_some, hdeny, getD_some] at hnames
  have hdefault := not_envIs_default hcreated hsc hprivileged hprofile haccepted
  rw [mainFilter, htty, envFilter, hnames, hdefault, knownNumbers]
  by_cases hterminal : config.tty = true
  · rw [if_pos hterminal, if_pos (.inl hterminal)]
  · by_cases hnil : deny.flatMap commaList = []
    · rw [if_neg hterminal, if_neg (not_not.mpr hnil), if_neg Bool.false_ne_true, if_pos (.inr hnil)]
    · rw [if_neg hterminal, if_pos hnil, if_neg (not_or.mpr ⟨hterminal, hnil⟩)]

theorem not_fallsBack : ¬ FallsBack launch := by
  rintro ⟨-, -, hdefault⟩
  rw [not_envIs_default hcreated hsc hprivileged hprofile haccepted] at hdefault
  cases hdefault

end Accepted

variable {arch : Arch}

variable {abi : Abi} {numbers : List ℕ} {launch : Launch} {deny : List (List Char)}

/-- Without a filter, nothing may be callable. -/
theorem denies_all_of_none (h : mainFilter arch launch = none) :
    DeniesAll arch abi deny launch ↔ ∀ name ∈ deny, abi name = [] := by
  refine forall₂_congr fun name _ => ?_
  rw [List.eq_nil_iff_forall_not_mem]
  refine forall₂_congr fun call _ => ?_
  rw [h]
  exact iff_of_false (fun ⟨_, hmem, _⟩ => not_mem_none _ hmem) not_false

variable (h : mainFilter arch launch = some (buildSeccompErrnoFilter arch numbers))

include h

theorem filterRefused_iff : FilterRefused arch launch ↔ 4096 < numbers.length + 6 := by
  have hcheck := check_installed arch numbers
  rw [FilterRefused, h]
  constructor
  · rintro ⟨_, ⟨⟩, hfalse⟩
    by_contra hshort
    rw [hcheck.mpr (by omega)] at hfalse
    cases hfalse
  · intro hlong
    exact ⟨_, rfl, Bool.eq_false_iff.mpr fun htrue => absurd (hcheck.mp htrue) (Nat.not_le.mpr hlong)⟩

theorem deniesAll_iff (hshort : numbers.length + 6 < 2 ^ 16) :
    DeniesAll arch abi deny launch ↔ ∀ name ∈ deny, ∀ call ∈ abi name, CallDenied arch numbers call := by
  refine forall₂_congr fun name _ => forall₂_congr fun call _ => ?_
  rw [h, ← denies_iff]
  constructor
  · rintro ⟨_, ⟨⟩, hdenies⟩
    rwa [installed_of_lt hshort] at hdenies
  · intro hdenies
    exact ⟨_, rfl, by rwa [installed_of_lt hshort]⟩

omit h

theorem startContainer_filter {machine masks process} (h : (startContainer machine masks launch).2 = .ok process) :
    process.filter = (mainFilter machine.arch launch).map installed ∧ ¬ FilterRefused machine.arch launch := by
  rw [startContainer] at h
  rw [FilterRefused, mainFilter]
  split_ifs at h ⊢
  · refine ⟨(ptyStart_envelope h).2, ?_⟩
    rintro ⟨_, ⟨⟩, -⟩
  · obtain ⟨-, hfilter, hcheck⟩ := execStart_envelope h
    refine ⟨hfilter, ?_⟩
    rintro ⟨filter, hmem, hfalse⟩
    rw [hcheck (installed filter) (hfilter ▸ mem_map_of_mem _ hmem)] at hfalse
    cases hfalse

theorem honoured_iff (arch) (abi) {host image rootfs config sc localhostRef}
    (hcreated : createContainer host image rootfs config = .ok launch) (hsc : config.securityContext = some sc)
    (hprivileged : sc.privileged = false) (hprofile : sc.seccomp = some ⟨.localhost, localhostRef⟩)
    (haccepted : parseLocalhostSeccompDeny host localhostRef = .ok deny) :
    Honoured arch abi deny launch ↔ Enforceable arch abi deny config.tty := by
  have hfilter := mainFilter_container hcreated hsc hprivileged hprofile haccepted arch
  rw [Honoured, or_iff_right (not_fallsBack hcreated hsc hprivileged hprofile haccepted)]
  by_cases hnone : config.tty = true ∨ deny.flatMap commaList = []
  · rw [if_pos hnone] at hfilter
    have hrefused : ¬ FilterRefused arch launch := by
      rintro ⟨_, hmem, -⟩
      rw [hfilter] at hmem
      cases hmem
    rw [or_iff_right hrefused, denies_all_of_none hfilter]
    refine (or_iff_left ?_).symm
    rintro ⟨htty, hne, -⟩
    rcases hnone with hterminal | hnil
    · rw [htty] at hterminal
      cases hterminal
    · exact hne hnil
  · obtain ⟨hterminal, hne⟩ := not_or.mp hnone
    rw [if_neg hnone] at hfilter
    rw [filterRefused_iff hfilter, Enforceable]
    simp only [Bool.eq_false_iff.mpr hterminal, hne, ne_eq, not_false_eq_true, true_and]
    by_cases hlong : 4096 < (knownNumbers arch deny).length + 6
    · simp [hlong]
    · rw [deniesAll_iff hfilter (by omega)]
      simp only [hlong, false_or]
      refine (or_iff_right_of_imp fun h => ?_).symm
      intro name hname call hcall
      rw [h name hname] at hcall
      cases hcall

/-- **The main process of a container with an accepted profile honours the profile if and only if it can be
enforced**; a process that is started has the filter, and the kernel has taken it. -/
theorem profile_iff (arch : Arch) (abi : Abi) {host : Host} {image : ImageConfig} {rootfs : List Char}
    {config : ContainerConfig} {launch : Launch} {sc : SecurityContext} {localhostRef : List Char}
    {deny : List (List Char)} (hcreated : createContainer host image rootfs config = .ok launch)
    (hsc : config.securityContext = some sc) (hprivileged : sc.privileged = false)
    (hprofile : sc.seccomp = some ⟨.localhost, localhostRef⟩)
    (haccepted : parseLocalhostSeccompDeny host localhostRef = .ok deny) :
    (∀ machine masks process, machine.arch = arch → (startContainer machine masks launch).2 = .ok process →
      process.filter = (mainFilter arch launch).map installed ∧ ¬ FilterRefused arch launch) ∧
    (Honoured arch abi deny launch ↔ Enforceable arch abi deny config.tty) :=
  ⟨fun _ _ _ harch h => harch ▸ startContainer_filter h,
    honoured_iff arch abi hcreated hsc hprivileged hprofile haccepted⟩

/-- A host with one profile, which denies some system calls and permits all others. -/
def profileHost (names : List String) : Host :=
  ⟨fun c => [c.toUpper], none, fun _ => .ok [], fun _ =>
    .ok ⟨"SCMP_ACT_ALLOW", [⟨names.map String.toList, "SCMP_ACT_ERRNO"⟩]⟩⟩

/-- A container with a profile. -/
def profileConfig : ContainerConfig where
  command := ["sh".toList]
  args := []
  workingDir := []
  envs := []
  resources := none
  securityContext := some {
    capabilities := none, privileged := false, runAsUser := none, runAsGroup := none, runAsUsername := []
    readonlyRootfs := false, supplementalGroups := [], noNewPrivs := false, maskedPaths := [], readonlyPaths := []
    seccomp := some ⟨.localhost, "/profiles/deny.json".toList⟩, apparmor := none, apparmorProfile := [] }
  tty := false

/-- It is made with these names. -/
def profileLaunch (names : List String) : Launch where
  cmd := ["sh".toList]
  plain := []
  entries := present (rows (profileHost names) profileConfig)
  workingDir := []
  user := none
  tty := false
  rootfsGuestPath := "/run/a3s/c".toList

/-- Two system calls of Linux on `x86_64`, one of which can be called as on 32-bit machines too. -/
def someAbi : Abi := fun name =>
  if name = "chmod".toList then [(0xC000003E, 90), (0x40000003, 15)]
  else if name = "unlinkat".toList then [(0xC000003E, 263)]
  else []

theorem chmod_denied : Honoured .x86_64 someAbi ["chmod".toList] (profileLaunch ["chmod"]) := by
  refine (@profile_iff .x86_64 someAbi (profileHost ["chmod"]) ⟨none, none, [], none, none⟩ "/run/a3s/c".toList
    profileConfig _ _ _ ["chmod".toList] rfl rfl rfl rfl rfl).2.mpr (.inr ⟨rfl, by decide +kernel, .inr ?_⟩)
  intro name hname call hcall
  rw [List.mem_singleton.mp hname] at hcall
  have hcalls : call = (0xC000003E, 90) ∨ call = (0x40000003, 15) := by simpa [someAbi] using hcall
  rcases hcalls with rfl | rfl
  · exact ⟨fun _ => by decide +kernel, fun hne => absurd rfl hne⟩
  · exact ⟨fun heq => absurd heq (by decide), fun _ => .inl (by decide +kernel)⟩

/-- **A profile that denies `unlinkat` is accepted, and the process is started with a filter that permits it**: the guest
does not know the name, and passes over it. -/
theorem unlinkat_allowed :
    parseLocalhostSeccompDeny (profileHost ["unlinkat"]) "/profiles/deny.json".toList = .ok ["unlinkat".toList] ∧
      createContainer (profileHost ["unlinkat"]) ⟨none, none, [], none, none⟩ "/run/a3s/c".toList profileConfig =
        .ok (profileLaunch ["unlinkat"]) ∧
      (∃ filter, mainFilter .x86_64 (profileLaunch ["unlinkat"]) = some filter ∧ Bpf.check (installed filter) = true ∧
        verdict (installed filter) 0xC000003E 263 = some retAllow) ∧
      ¬ Honoured .x86_64 someAbi ["unlinkat".toList] (profileLaunch ["unlinkat"]) := by
  have hfilter : mainFilter .x86_64 (profileLaunch ["unlinkat"]) = some (buildSeccompErrnoFilter .x86_64 []) := by
    decide +kernel
  refine ⟨rfl, rfl, ⟨_, hfilter, rfl, rfl⟩, ?_⟩
  rintro (⟨-, -, hdefault⟩ | hrefused | hdenies)
  · exact absurd hdefault (by decide +kernel)
  · exact absurd ((filterRefused_iff hfilter).mp hrefused) (by decide)
  · obtain ⟨_, hmem, hdenied⟩ :=
      hdenies "unlinkat".toList (List.mem_singleton_self _) (0xC000003E, 263) (by decide +kernel)
    cases hmem
    exact List.not_mem_nil ((denies_native .x86_64 [] 263).mp hdenied)

end A3sBox.Cri
