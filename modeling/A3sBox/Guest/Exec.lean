import A3sBox.Guest.User
import A3sBox.Library.Bpf
import Mathlib.Data.List.Dedup

/-!
# Processes of the guest

`build_command` and `configure_child_process` of `guest/init/src/exec_server.rs`, capabilities and filters of
`namespace.rs`, and `handle_pty_connection` of `pty_server.rs`. The exec server takes what confines a process from
entries of the environment that start with `A3S_SEC_`; the terminal server does not read them.

## The model

A set of capabilities is a word of 64 bits. `Machine` says what the kernel permits and what is found below the root
file system, and what is mounted there stays. Left out are pseudo file systems, device nodes, control groups, input,
output and time limits.

`execStart_envelope`, `ptyStart_envelope`, `denies_native`, `denies_foreign`: what a process has and what its filter
denies. `verdict_meant_iff`: a call of another architecture is refused, not killed.
-/

namespace A3sBox.Guest

open Text Slices List Option

/-! ### Control entries -/

/-- The entries of the environment that confine a process. -/
inductive SecKey where
  | memLimit
  | cpuQuota
  | cpuPeriod
  | cpuShares
  | supplementalGroups
  | maskedPaths
  | readonlyPaths
  /-- The filter of system calls of the runtime. -/
  | seccomp
  /-- The system calls that a profile denies. -/
  | seccompLocalhost
  | capDrop
  | capKeep
  | noNewPrivs
  | readonlyRootfs
  deriving DecidableEq, Repr

/-- What every key starts with. -/
def secStart : List Char := "A3S_SEC_".toList

/-- A key without what every key starts with. -/
def SecKey.name : SecKey → String
  | .memLimit => "MEM_LIMIT"
  | .cpuQuota => "CPU_QUOTA"
  | .cpuPeriod => "CPU_PERIOD"
  | .cpuShares => "CPU_SHARES"
  | .supplementalGroups => "SUPPLEMENTAL_GROUPS"
  | .maskedPaths => "MASKED_PATHS"
  | .readonlyPaths => "READONLY_PATHS"
  | .seccomp => "SECCOMP"
  | .seccompLocalhost => "SECCOMP_LOCALHOST"
  | .capDrop => "CAP_DROP"
  | .capKeep => "CAP_KEEP"
  | .noNewPrivs => "NO_NEW_PRIVS"
  | .readonlyRootfs => "READONLY_ROOTFS"

/-- The key as text. -/
def SecKey.text (key : SecKey) : List Char := secStart ++ key.name.toList

/-- The value of the first entry of a key. -/
def envValue (key : SecKey) (env : List (List Char)) : Option (List Char) :=
  env.findSome? (stripStart (key.text ++ ['=']))

/-- There is an entry with exactly this key and value. -/
def envIs (key : SecKey) (value : String) (env : List (List Char)) : Bool :=
  env.any (· == key.text ++ '=' :: value.toList)

/-- The names of a list that is separated by commas. -/
def commaList (csv : List Char) : List (List Char) := ((pieces (· == ',') csv).map trim).filter (· ≠ [])

/-- `parse_sec_path_list`. -/
def parseSecPathList (env : List (List Char)) (key : SecKey) : List (List Char) :=
  ((envValue key env).map fun value => (pieces (· == ':') value).filter (· ≠ [])).getD []

/-- The groups of the environment; what is no number is passed over. -/
def supplementalGroups (env : List (List Char)) : List ℕ :=
  ((envValue .supplementalGroups env).map fun csv =>
    (pieces (· == ',') csv).filterMap fun gid => number? (trim gid)).getD []

/-! ### Capabilities -/

/-- The capabilities, in the order of their numbers. -/
def capabilityNames : List String :=
  ["CHOWN", "DAC_OVERRIDE", "DAC_READ_SEARCH", "FOWNER", "FSETID", "KILL", "SETGID", "SETUID", "SETPCAP",
    "LINUX_IMMUTABLE", "NET_BIND_SERVICE", "NET_BROADCAST", "NET_ADMIN", "NET_RAW", "IPC_LOCK", "IPC_OWNER",
    "SYS_MODULE", "SYS_RAWIO", "SYS_CHROOT", "SYS_PTRACE", "SYS_PACCT", "SYS_ADMIN", "SYS_BOOT", "SYS_NICE",
    "SYS_RESOURCE", "SYS_TIME", "SYS_TTY_CONFIG", "MKNOD", "LEASE", "AUDIT_WRITE", "AUDIT_CONTROL", "SETFCAP",
    "MAC_OVERRIDE", "MAC_ADMIN", "SYSLOG", "WAKE_ALARM", "BLOCK_SUSPEND", "AUDIT_READ", "PERFMON", "BPF",
    "CHECKPOINT_RESTORE"]

/-- The optional beginning of the name of a capability. -/
def capStart : List Char := "CAP_".toList

/-- The number of a name without the beginning. -/
def capNumber (name : List Char) : Option ℕ := (capabilityNames.map String.toList).idxOf? name

/-- `cap_name_to_number`. -/
def capNameToNumber (name : List Char) : Option ℕ := capNumber ((stripStart capStart name).getD name)

/-- The bit of a capability. -/
def capBit (cap : ℕ) : BitVec 64 := 1#64 <<< cap

/-- All capabilities, which root has when the process is started. -/
def fullMask : BitVec 64 := BitVec.ofNat 64 (2 ^ 41 - 1)

/-- The word that `restrict_capabilities_to_keep` keeps. -/
def keepMask (keep : List (List Char)) : BitVec 64 :=
  (keep.filterMap capNameToNumber).foldl (fun mask cap => mask ||| capBit cap) 0#64

/-- What `drop_capabilities` leaves. -/
def dropMask (drop : List (List Char)) : BitVec 64 :=
  if "ALL".toList ∈ drop then 0
  else (drop.filterMap capNameToNumber).foldl (fun mask cap => mask &&& ~~~ capBit cap) fullMask

/-- The capabilities that an environment keeps, if it says so. -/
def capKeep (env : List (List Char)) : Option (List (List Char)) := (envValue .capKeep env).map commaList

/-- The capabilities that an environment removes. -/
def capDrop (env : List (List Char)) : List (List Char) := ((envValue .capDrop env).map commaList).getD []

/-- The capabilities that an environment leaves to a process. -/
def envMask (env : List (List Char)) : BitVec 64 :=
  match capKeep env with
  | some keep => keepMask keep
  | none => if capDrop env = [] then fullMask else dropMask (capDrop env)

/-! ### Filters of system calls -/

/-- The architectures for which the guest is built. -/
inductive Arch where
  | x86_64
  | aarch64
  deriving DecidableEq, Repr

/-- The number of an architecture in the input of a filter. -/
def Arch.audit : Arch → ℕ
  | .x86_64 => 0xC000003E
  | .aarch64 => 0xC00000B7

/-- Let the call pass. -/
def retAllow : ℕ := 0x7fff0000

/-- Refuse it with `EPERM`. -/
def retErrno : ℕ := 0x00050001

/-- The process is killed. -/
def retKill : ℕ := 0x80000000

/-- `build_seccomp_errno_filter`. -/
def buildSeccompErrnoFilter (arch : Arch) (blocked : List ℕ) : List Bpf.Insn :=
  [.load 4, .jeq arch.audit 0 ((blocked.length + 2) % 256), .load 0] ++ Bpf.denyTable blocked ++
    [.ret retAllow, .ret retErrno, .ret retKill]

/-- The system calls of the filter of the runtime. -/
def Arch.defaultBlocked : Arch → List ℕ
  | .x86_64 => [246, 320, 169, 167, 168, 175, 313, 176, 163, 164, 227, 135, 250, 298, 321, 323]
  | .aarch64 => [104, 294, 142, 224, 225, 105, 273, 106, 89, 170, 112, 92, 219, 241, 280, 282]

/-- `build_default_bpf_filter`. -/
def buildDefaultBpfFilter (arch : Arch) : List Bpf.Insn := buildSeccompErrnoFilter arch arch.defaultBlocked

/-- The system calls whose names the guest knows. -/
def Arch.syscalls : Arch → List (String × ℕ)
  | .x86_64 =>
    [("chmod", 90), ("fchmod", 91), ("fchmodat", 268), ("sethostname", 170), ("setdomainname", 171), ("mount", 165),
      ("umount2", 166), ("chroot", 161), ("ptrace", 101), ("reboot", 169)]
  | .aarch64 =>
    [("fchmod", 52), ("fchmodat", 53), ("sethostname", 161), ("setdomainname", 162), ("mount", 40), ("umount2", 39),
      ("chroot", 51), ("ptrace", 117), ("reboot", 142)]

/-- `syscall_name_to_number`. -/
def syscallNameToNumber (arch : Arch) (name : List Char) : Option ℕ :=
  (arch.syscalls.find? fun entry => entry.1.toList == name).map Prod.snd

/-- The system calls that a profile denies, as they arrive. -/
def seccompLocalhost (env : List (List Char)) : List (List Char) :=
  ((envValue .seccompLocalhost env).map commaList).getD []

/-- The filter that an environment asks for. -/
def envFilter (arch : Arch) (env : List (List Char)) : Option (List Bpf.Insn) :=
  if seccompLocalhost env ≠ [] then
    some (buildSeccompErrnoFilter arch ((seccompLocalhost env).filterMap (syscallNameToNumber arch)))
  else if envIs .seccomp "default" env then some (buildDefaultBpfFilter arch)
  else none

/-- What the kernel is given of a filter: its length is a number of 16 bits. -/
def installed (filter : List Bpf.Insn) : List Bpf.Insn := filter.take (filter.length % 2 ^ 16)

/-! ### The machine -/

/-- What is found at a path. -/
inductive PathKind where
  | absent
  | directory
  | link
  | other
  deriving DecidableEq, Repr

/-- The mounts that the guest makes. -/
inductive MountCall where
  | maskDirectory (target : List Char)
  /-- `/dev/null` over what is no directory, which is opened first. -/
  | maskEntry (target : List Char)
  | bindSelf (target : List Char)
  | remountReadonly (target : List Char)
  deriving DecidableEq, Repr

/-- What the kernel permits, and what is found below a root file system. -/
structure Machine extends Kernel where
  arch : Arch
  /-- `/etc` below a root file system. -/
  etc : List Char → Etc
  kind : List Char → PathKind
  /-- A directory of the path is a link, which the guest follows from its own root. -/
  through : List Char → Bool
  /-- Whether what is found at a path is a directory, if links are followed. -/
  metadata : List Char → Option Bool
  /-- Another file system is mounted at the path from the start. -/
  mountpoint : List Char → Bool
  /-- The path cannot be written from the start. -/
  readonlyFs : List Char → Bool
  mount : MountCall → Bool
  setpgid : Bool
  chroot : List Char → List Char → Bool
  /-- `chdir` without a root file system. -/
  chdir : List Char → Bool
  /-- `prctl` and `capset` with the word of the capabilities that stay. -/
  capset : BitVec 64 → Bool
  setNoNewPrivs : Bool
  seccomp : Bool
  openpty : Bool
  exec : List (List Char) → Bool
  /-- What the system says of a path or a program that it does not find. -/
  failure : List Char → String

/-- What is mounted below the root file systems. -/
structure Masks where
  masked : List (List Char)
  readonly : List (List Char)
  /-- The root file systems that were made read-only. -/
  readonlyRootfs : List (List Char)

/-- A path is below something that is masked. -/
def Masks.hides (masks : Masks) (target : List Char) : Bool :=
  masks.masked.any fun above => (above ++ ['/']).isPrefixOf target

/-- The path is absolute and does not go up. -/
def isSafe (path : List Char) : Bool := path.head? == some '/' && !(pieces (· == '/') path).any (· == "..".toList)

variable (machine : Machine) (rootfs : List Char)

/-- Mask a path. What is mounted through a link of the guest masks nothing here. -/
def maskPath (masks : Masks) (path : List Char) : Masks :=
  let target := rootfs ++ path
  if isSafe path = false ∨ target ∈ masks.masked ∨ machine.mountpoint target ∨ masks.hides target ∨
      machine.through target then masks
  else
    match machine.kind target with
    | .absent => masks
    | .directory =>
      if machine.mount (.maskDirectory target) then { masks with masked := target :: masks.masked } else masks
    | .link | .other =>
      if machine.mount (.maskEntry target) then { masks with masked := target :: masks.masked } else masks

/-- Make a path read-only; the mount follows a link. -/
def readonlyPath (masks : Masks) (path : List Char) : Masks :=
  let target := rootfs ++ path
  if isSafe path = false ∨ masks.hides target ∨ machine.metadata target = none ∨ target ∈ masks.masked ∨
      target ∈ masks.readonly ∨ machine.readonlyFs target then masks
  else if machine.through target ∨ machine.kind target = .link then masks
  else if machine.mount (.bindSelf target) ∧ machine.mount (.remountReadonly target) then
    { masks with readonly := target :: masks.readonly }
  else masks

/-- `apply_container_path_restrictions`. -/
def applyContainerPathRestrictions (masked readonly : List (List Char)) (masks : Masks) : Masks :=
  readonly.foldl (readonlyPath machine rootfs) (masked.foldl (maskPath machine rootfs) masks)

/-- `remount_rootfs_readonly`. -/
def remountRootfsReadonly (masks : Masks) : Masks :=
  if rootfs ∈ masks.readonlyRootfs ∨ machine.readonlyFs rootfs then masks
  else if machine.mount (.bindSelf rootfs) ∧ machine.mount (.remountReadonly rootfs) then
    { masks with readonlyRootfs := rootfs :: masks.readonlyRootfs }
  else masks

/-- What a request mounts below its root file system. -/
def restrict (env : List (List Char)) (masks : Masks) : Masks :=
  let masks := applyContainerPathRestrictions machine rootfs (parseSecPathList env .maskedPaths)
    (parseSecPathList env .readonlyPaths) masks
  if envIs .readonlyRootfs "1" env then remountRootfsReadonly machine rootfs masks else masks

/-! ### Starting a process -/

/-- A request to start a process: `ExecRequest` and `PtyRequest`, without input, time limit and size. -/
structure Request where
  cmd : List (List Char)
  env : List (List Char)
  workingDir : Option (List Char)
  rootfs : Option (List Char)
  user : Option (List Char)

/-- What a process runs with. -/
structure Process where
  uid : ℕ
  gid : ℕ
  groups : List ℕ
  bounding : BitVec 64
  noNewPrivs : Bool
  filter : Option (List Bpf.Insn)
  deriving DecidableEq, Repr

/-- The check of the root file system, which both servers make. -/
def validateRootfs (rootfs workdir : List Char) : Except String Unit :=
  let name := String.ofList rootfs
  let reason := machine.failure rootfs
  if rootfs.head? ≠ some '/' ∨ '\x00' ∈ rootfs ∨ '\x00' ∈ workdir then .error s!"Invalid rootfs path: {name}"
  else
    match machine.metadata rootfs with
    | some true => .ok ()
    | some false => .error s!"Rootfs path is not a directory: {name}"
    | none => .error s!"Rootfs path is unavailable: {name} ({reason})"

variable (request : Request)

/-- `validate_rootfs_request`. -/
def validateRootfsRequest : Except String Unit :=
  match request.rootfs with
  | none => .ok ()
  | some rootfs => validateRootfs machine rootfs (request.workingDir.getD ['/'])

/-- `ProcessUser::apply`: the kernel permits the identity. -/
def Kernel.becomes (kernel : Kernel) (user : Option ProcessUser) : Bool :=
  user.all fun user => user.gid.all kernel.setgid && kernel.setuid user.uid

/-- The user of a process of the exec server, which is looked up in `/etc/passwd`. -/
def execUser : Except String (Option ProcessUser) :=
  let etc := machine.etc (request.rootfs.getD ['/'])
  let resolved := request.user.bind (resolveNamedUser etc.passwd)
  (parseProcessUser (resolved.orElse fun _ => request.user)).map fun user =>
    user.map fun user => { user with gid := user.gid.orElse fun _ => primaryGidForUid etc.passwd user.uid }

variable (user : Option ProcessUser)

/-- The groups of a process. -/
def execGroups : List ℕ :=
  match user, request.rootfs with
  | some user, some rootfs =>
    let image := resolveImageGroups (machine.etc rootfs) user.uid user.gid (request.user.getD root)
    (supplementalGroups request.env ++ image).reverse.dedup.reverse
  | _, _ => supplementalGroups request.env

/-- The calls for a process, in the order of `configure_child_process`, are all permitted. -/
def Machine.permits (groups : List ℕ) : Bool :=
  machine.setpgid &&
  (match request.rootfs with
    | some rootfs => machine.chroot rootfs (request.workingDir.getD ['/'])
    | none => request.workingDir.all machine.chdir) &&
  (groups.isEmpty || machine.setgroups groups) &&
  ((capKeep request.env = none && (capDrop request.env).isEmpty) || machine.capset (envMask request.env)) &&
  machine.becomes user &&
  (!envIs .noNewPrivs "1" request.env || machine.setNoNewPrivs) &&
  ((envFilter machine.arch request.env).all fun filter =>
    machine.setNoNewPrivs && machine.seccomp && Bpf.check (installed filter)) &&
  machine.exec request.cmd

/-- The process of the exec server; the installation of a filter forbids new privileges too. -/
def execProcess : Process where
  uid := (user.map ProcessUser.uid).getD 0
  gid := (user.bind ProcessUser.gid).getD 0
  groups := execGroups machine request user
  bounding := envMask request.env
  noNewPrivs := envIs .noNewPrivs "1" request.env || (envFilter machine.arch request.env).isSome
  filter := (envFilter machine.arch request.env).map installed

/-- `configure_child_process` and the start of the program. -/
def spawn : Except String Process :=
  let name := String.ofList (request.cmd.headD [])
  let reason := machine.failure (request.cmd.headD [])
  if machine.permits request user (execGroups machine request user) then .ok (execProcess machine request user)
  else .error s!"Failed to spawn command '{name}': {reason}"

/-- `build_command`, and the start: what is mounted, and the process or why there is none. -/
def execStart (masks : Masks) (request : Request) : Masks × Except String Process :=
  if request.cmd = [] then (masks, .error "Empty command")
  else
    match execUser machine request, validateRootfsRequest machine request with
    | .error e, _ => (masks, .error e)
    | .ok _, .error e => (masks, .error e)
    | .ok user, .ok () =>
      match request.rootfs with
      | none => (masks, spawn machine request user)
      | some rootfs => (restrict machine rootfs request.env masks, spawn machine request user)

/-- `handle_pty_connection`: the terminal server applies the user, and nothing else that confines the process. -/
def ptyStart : Except String Process :=
  if request.cmd = [] then .error "Empty command"
  else do
    validateRootfsRequest machine request
    let user ← parseProcessUser request.user
    if machine.openpty && (request.rootfs.all fun rootfs => machine.chroot rootfs (request.workingDir.getD ['/'])) &&
        machine.becomes user && machine.exec request.cmd then
      .ok ⟨(user.map ProcessUser.uid).getD 0, (user.bind ProcessUser.gid).getD 0, [], fullMask, false, none⟩
    else .error "exit code 127"

/-! ### What a started process has -/

variable {machine : Machine} {request : Request} {user : Option ProcessUser} {process : Process} {masks : Masks}
  {text other name : List Char}

theorem spawn_ok (h : spawn machine request user = .ok process) :
    machine.permits request user (execGroups machine request user) = true ∧
      process = execProcess machine request user := by
  rw [spawn] at h
  split_ifs at h with hpermits
  cases h
  exact ⟨hpermits, rfl⟩

variable (h : (execStart machine masks request).2 = .ok process)

include h

theorem execStart_ok : ∃ user, execUser machine request = .ok user ∧ process = execProcess machine request user ∧
      machine.permits request user (execGroups machine request user) = true ∧
      ∀ rootfs ∈ request.rootfs, (execStart machine masks request).1 = restrict machine rootfs request.env masks := by
  rw [execStart] at h ⊢
  split_ifs at h ⊢ with hcmd
  rcases huser : execUser machine request with _ | user
  · rw [huser] at h
    cases h
  · rcases hvalid : validateRootfsRequest machine request with _ | _
    · rw [huser, hvalid] at h
      cases h
    · rw [huser, hvalid] at h
      rcases hrootfs : request.rootfs with _ | _
      · simp only [hrootfs] at h
        obtain ⟨hpermits, hprocess⟩ := spawn_ok h
        refine ⟨user, rfl, hprocess, hpermits, ?_⟩
        rintro _ ⟨⟩
      · simp only [hrootfs] at h
        obtain ⟨hpermits, hprocess⟩ := spawn_ok h
        refine ⟨user, rfl, hprocess, hpermits, ?_⟩
        rintro _ ⟨⟩
        rfl

/-- **The exec server gives a process the capabilities and the filter of its environment**, which the kernel has
checked. -/
theorem execStart_envelope :
    process.bounding = envMask request.env ∧ process.filter = (envFilter machine.arch request.env).map installed ∧
      ∀ filter ∈ process.filter, Bpf.check filter = true := by
  obtain ⟨_, -, rfl, hpermits, -⟩ := execStart_ok h
  refine ⟨rfl, rfl, ?_⟩
  intro filter hfilter
  obtain ⟨_, hwhole, rfl⟩ := mem_map.mp hfilter
  simp only [Machine.permits, Bool.and_eq_true] at hpermits
  have hall := hpermits.1.2
  rw [mem_def.mp hwhole, all_some, Bool.and_eq_true] at hall
  exact hall.2

omit h

/-- **The terminal server leaves a process all capabilities, and filters nothing.** -/
theorem ptyStart_envelope (h : ptyStart machine request = .ok process) :
    process.bounding = fullMask ∧ process.filter = none := by
  rw [ptyStart] at h
  split_ifs at h with hcmd
  obtain ⟨-, -, h⟩ := except_bind_ok h
  obtain ⟨_, -, h⟩ := except_bind_ok h
  split_ifs at h with hpermits
  cases h
  exact ⟨rfl, rfl⟩

/-- A process of root that nothing confines. -/
def rootProcess : Process := ⟨0, 0, [], fullMask, false, none⟩

theorem ptyStart_root (huser : request.user = none) (h : ptyStart machine request = .ok process) :
    process = rootProcess := by
  rw [ptyStart, huser] at h
  split_ifs at h with hcmd
  obtain ⟨-, -, h⟩ := except_bind_ok h
  obtain ⟨_, hparse, h⟩ := except_bind_ok h
  cases hparse
  split_ifs at h with hpermits
  cases h
  rfl

/-! ### The identity of a started process -/

theorem parseProcessUser_trim (user : List Char) :
    parseProcessUser (some user) = parseProcessUser (some (trim user)) := by
  simp [parseProcessUser, trim_trim]

theorem resolveNamedUser_trim (passwd : Option (List Char)) (user : List Char) :
    resolveNamedUser passwd user = resolveNamedUser passwd (trim user) := by
  simp [resolveNamedUser, trim_trim]

theorem parseProcessUser_ne_nil (h : parseProcessUser (some text) = .ok user) : trim text ≠ [] := by
  intro hnil
  simp only [parseProcessUser, hnil] at h
  cases h

theorem execUser_identity (h : execUser machine request = .ok user) (htext : request.user = some text) :
    trim text ≠ [] ∧ user = (resolveUserAndGroups (machine.etc (request.rootfs.getD ['/'])) (some text)).1 := by
  simp only [execUser, htext, bind_some] at h
  generalize hetc : machine.etc (request.rootfs.getD ['/']) = etc at h
  have hparse : (resolveNamedUser etc.passwd text).orElse (fun _ => some text) =
      some ((resolveNamedUser etc.passwd text).getD text) := by
    cases resolveNamedUser etc.passwd text <;> rfl
  rw [hparse] at h
  rcases hok : parseProcessUser (some ((resolveNamedUser etc.passwd text).getD text)) with _ | parsed
  · rw [hok] at h
    cases h
  · have hne : trim text ≠ [] := by
      intro hnil
      have hnone : resolveNamedUser etc.passwd text = none := by
        rw [resolveNamedUser_trim, hnil]
        rfl
      rw [hnone] at hok
      exact parseProcessUser_ne_nil hok hnil
    refine ⟨hne, ?_⟩
    have hsame : parseProcessUser (some ((resolveNamedUser etc.passwd (trim text)).getD (trim text))) = .ok parsed := by
      rw [← hok, ← resolveNamedUser_trim]
      cases resolveNamedUser etc.passwd text with
      | none => exact (parseProcessUser_trim text).symm
      | some => rfl
    rw [resolveUserAndGroups_trim, resolve_fst hne (trim_trim text), hsame]
    rw [hok] at h
    cases h
    cases parsed <;> rfl

theorem execUser_gid {user : ProcessUser} (h : execUser machine request = .ok (some user)) (hgid : user.gid = none) :
    primaryGidForUid (machine.etc (request.rootfs.getD ['/'])).passwd user.uid = none := by
  simp only [execUser] at h
  generalize parseProcessUser _ = parsed at h
  rcases parsed with _ | _ | _
  · cases h
  · cases h
  · cases h
    exact (or_eq_none_iff.mp ((or_eq_orElse ..).trans hgid)).2

theorem execUser_none (h : execUser machine request = .ok user) (hnone : request.user = none) : user = none := by
  simp only [execUser, hnone] at h
  cases h
  rfl

theorem execStart_root (huser : request.user = none) (henv : request.env = [])
    (h : (execStart machine masks request).2 = .ok process) : process = rootProcess := by
  obtain ⟨_, hexec, rfl, -, -⟩ := execStart_ok h
  have hgroups : execGroups machine request none = supplementalGroups request.env := rfl
  rw [execUser_none hexec huser, execProcess, hgroups, henv]
  rfl

/-- A process is in the groups of its environment, and in those that the image gives its user. -/
theorem mem_execGroups {rootfs} (hrootfs : request.rootfs = some rootfs) (n : ℕ) :
    n ∈ execGroups machine request user ↔ n ∈ supplementalGroups request.env ∨
      ∃ u ∈ user, n ∈ resolveImageGroups (machine.etc rootfs) u.uid u.gid (request.user.getD root) := by
  cases user with
  | none => simp [execGroups]
  | some =>
    simp only [execGroups, hrootfs, mem_reverse, mem_dedup, mem_append, mem_def, Option.some.injEq, exists_eq_left']

/-! ### Entries of the environment -/

/-- An entry as text. -/
def entryText (entry : List Char × List Char) : List Char := entry.1 ++ '=' :: entry.2

theorem SecKey.secStart_text (key : SecKey) : secStart <+: key.text := prefix_append _ _

theorem SecKey.eq_not_mem_text (key : SecKey) : '=' ∉ key.text := by
  rw [SecKey.text, mem_append, not_or]
  refine ⟨by decide, ?_⟩
  cases key <;> decide

theorem SecKey.text_injective {key other : SecKey} (h : key.text = other.text) : key = other := by
  have hname : key.name = other.name := String.toList_inj.mp (append_cancel_left h)
  revert hname
  cases key <;> cases other <;> decide

/-- Two entries whose keys have no `=` start alike only if they have the same key. -/
theorem stripStart_key {key} (hkey : '=' ∉ key) (hother : '=' ∉ other) (value : List Char) :
    stripStart (key ++ ['=']) (other ++ '=' :: value) = if other = key then some value else none := by
  rw [stripStart]
  by_cases heq : other = key
  · subst heq
    have hstart : (other ++ ['=']).isPrefixOf (other ++ '=' :: value) = true :=
      isPrefixOf_iff_prefix.mpr ⟨value, by rw [append_assoc, singleton_append]⟩
    rw [if_pos hstart, if_pos rfl, show other ++ '=' :: value = (other ++ ['=']) ++ value by simp, drop_left]
  · rw [if_neg, if_neg heq]
    intro hstart
    obtain ⟨_, hrest⟩ := isPrefixOf_iff_prefix.mp hstart
    rw [append_assoc] at hrest
    exact heq (append_cons_inj hkey hother hrest).1.symm

/-- An entry whose key does not start as the control entries do is none of them. -/
theorem stripStart_foreign (key : SecKey) {value} (hother : ¬ secStart <+: other) :
    stripStart (key.text ++ ['=']) (other ++ '=' :: value) = none := by
  rw [stripStart, if_neg]
  intro hstart
  obtain ⟨_, hrest⟩ := isPrefixOf_iff_prefix.mp hstart
  rw [append_assoc] at hrest
  rcases append_eq_append_iff.mp hrest with ⟨more, rfl, -⟩ | ⟨more, hmore, htail⟩
  · exact hother (key.secStart_text.trans (prefix_append _ _))
  · cases more with
    | nil => exact hother (by simpa [hmore] using key.secStart_text)
    | cons c =>
      have hc : c = '=' := (List.cons.inj htail).1.symm
      exact key.eq_not_mem_text (by rw [hmore, hc]; simp)

/-- What the runtime adds to the environment of the image and of the pod. -/
def envTexts (plain : List (List Char × List Char)) (entries : List (SecKey × List Char)) : List (List Char) :=
  (plain ++ entries.map fun entry => (entry.1.text, entry.2)).map entryText

section Lookup

variable {plain : List (List Char × List Char)} {entries : List (SecKey × List Char)}

/-- **The guest reads a control entry of the runtime, and never one of the image or of the pod.** -/
theorem envValue_envTexts (hplain : ∀ entry ∈ plain, ¬ secStart <+: entry.1) (key : SecKey) :
    envValue key (envTexts plain entries) = entries.lookup key := by
  induction plain with
  | nil =>
    induction entries with
    | nil => rfl
    | cons entry _ ih =>
      have hread := stripStart_key key.eq_not_mem_text entry.1.eq_not_mem_text entry.2
      rw [envValue, envTexts, nil_append, map_cons, map_cons, entryText, List.findSome?_cons, hread, lookup_cons]
      by_cases hkey : key = entry.1
      · rw [if_pos (congrArg SecKey.text hkey.symm), hkey, beq_self_eq_true]
      · rw [if_neg fun h => hkey (SecKey.text_injective h.symm), beq_false_of_ne hkey]
        exact ih
  | cons entry _ ih =>
    rw [envValue, envTexts, cons_append, map_cons, entryText, List.findSome?_cons,
      stripStart_foreign key (hplain entry mem_cons_self)]
    exact ih fun other hother => hplain other (mem_cons_of_mem _ hother)

theorem envIs_envTexts (hplain : ∀ entry ∈ plain, ¬ secStart <+: entry.1) (key : SecKey) (value : String) :
    envIs key value (envTexts plain entries) = true ↔ (key, value.toList) ∈ entries := by
  have hself := stripStart_key key.eq_not_mem_text key.eq_not_mem_text value.toList
  rw [if_pos rfl] at hself
  constructor
  · intro h
    obtain ⟨_, htext, heq⟩ := any_eq_true.mp h
    obtain ⟨entry, hentry, rfl⟩ := mem_map.mp htext
    have hentryText : entry.1 ++ '=' :: entry.2 = key.text ++ '=' :: value.toList := beq_iff_eq.mp heq
    rcases mem_append.mp hentry with hmem | hmem
    · rw [← hentryText, stripStart_foreign key (hplain entry hmem)] at hself
      cases hself
    · obtain ⟨control, hcontrol, rfl⟩ := mem_map.mp hmem
      obtain ⟨hkey, hvalue⟩ := append_cons_inj control.1.eq_not_mem_text key.eq_not_mem_text hentryText
      have heq : control = (key, value.toList) := Prod.ext (SecKey.text_injective hkey) hvalue
      exact heq ▸ hcontrol
  · intro h
    refine any_eq_true.mpr ⟨entryText (key.text, value.toList), ?_, beq_iff_eq.mpr rfl⟩
    exact mem_map_of_mem (mem_append_right _ (mem_map.mpr ⟨(key, value.toList), h, rfl⟩))

end Lookup

/-- A list that was put together is taken apart again, and so are its names. -/
theorem commaList_joinWith (names : List (List Char)) : commaList (joinWith ',' names) = names.flatMap commaList := by
  by_cases hnil : names = []
  · subst hnil
    rfl
  · rw [commaList, pieces_joinWith ',' hnil, map_flatMap, filter_flatMap]
    rfl

theorem commaList_of_plain (hcomma : ',' ∉ name) (htrim : trim name = name) (hne : name ≠ []) :
    commaList name = [name] := by
  rw [commaList, pieces_of_not_mem hcomma, map_singleton, htrim, filter_cons_of_pos (by simpa using hne), filter_nil]

/-! ### Capabilities as bits -/

theorem getLsbD_capBit (cap n : ℕ) : (capBit cap).getLsbD n = true ↔ n < 64 ∧ n = cap := by
  rw [capBit, BitVec.getLsbD_shiftLeft, BitVec.getLsbD_one]
  simp only [Bool.and_eq_true, decide_eq_true_eq, Bool.not_eq_true', decide_eq_false_iff_not]
  omega

theorem getLsbD_foldl_capBit (caps : List ℕ) (mask : BitVec 64) (n : ℕ) :
    (caps.foldl (fun mask cap => mask ||| capBit cap) mask).getLsbD n = true ↔
      mask.getLsbD n = true ∨ n < 64 ∧ n ∈ caps := by
  induction caps generalizing mask with
  | nil => simp
  | cons _ _ ih =>
    rw [foldl_cons, ih, BitVec.getLsbD_or, Bool.or_eq_true, getLsbD_capBit, mem_cons]
    tauto

theorem getLsbD_fullMask (n : ℕ) : fullMask.getLsbD n = true ↔ n < 41 := by
  rw [fullMask, BitVec.getLsbD_ofNat, Nat.testBit_two_pow_sub_one, Bool.and_eq_true, decide_eq_true_eq,
    decide_eq_true_eq]
  omega

theorem capNumber_lt {n} (h : capNumber name = some n) : n < 41 := by
  obtain ⟨hlt, -⟩ := List.idxOf?_eq_some_iff.mp h
  exact hlt

theorem capNumber_injective {n} (h : capNumber name = some n) (hother : capNumber other = some n) : name = other := by
  obtain ⟨_, hname, -⟩ := List.idxOf?_eq_some_iff.mp h
  obtain ⟨_, hname', -⟩ := List.idxOf?_eq_some_iff.mp hother
  exact hname.symm.trans hname'

/-! ### What a filter denies -/

/-- The answer of a filter to a system call of an architecture. -/
def verdict (filter : List Bpf.Insn) (arch nr : ℕ) : Option ℕ :=
  Bpf.run (fun offset => if offset = 4 then arch else nr) filter 0 0

/-- The call is refused, or the process is killed. -/
def Denies (filter : List Bpf.Insn) (arch nr : ℕ) : Prop :=
  verdict filter arch nr = some retErrno ∨ verdict filter arch nr = some retKill

theorem denies_of_verdict {filter arch nr} {p : Prop} [Decidable p]
    (h : verdict filter arch nr = some (if p then retErrno else retAllow)) : Denies filter arch nr ↔ p := by
  rw [Denies, h]
  by_cases hp : p
  · simp [hp]
  · rw [if_neg hp]
    refine iff_of_false ?_ hp
    decide

variable (arch : Arch)

variable (blocked : List ℕ)

theorem verdict_start (a nr : ℕ) : verdict (buildSeccompErrnoFilter arch blocked) a nr =
      Bpf.run (fun offset => if offset = 4 then a else nr)
        (.load 0 :: (Bpf.denyTable blocked ++ [.ret retAllow, .ret retErrno, .ret retKill]))
        (if a = arch.audit then 0 else (blocked.length + 2) % 256) a := rfl

theorem verdict_native (nr : ℕ) : verdict (buildSeccompErrnoFilter arch blocked) arch.audit nr =
    some (if nr ∈ Bpf.reaching blocked then retErrno else retAllow) := by
  rw [verdict_start, if_pos rfl]
  exact Bpf.run_denyTable _ _ _ _ _ _

/-- **On the architecture of the guest, a filter denies what the entries that reach its answer name.** -/
theorem denies_native (nr : ℕ) :
    Denies (buildSeccompErrnoFilter arch blocked) arch.audit nr ↔ nr ∈ Bpf.reaching blocked :=
  denies_of_verdict (verdict_native arch blocked nr)

theorem verdict_foreign {a} (ha : a ≠ arch.audit) (nr : ℕ) : verdict (buildSeccompErrnoFilter arch blocked) a nr =
    some (if blocked.length ≤ 253 ∨ (if (blocked.length + 2) % 256 = 0 then nr else a) ∈ Bpf.reaching blocked
      then retErrno else retAllow) := by
  rw [verdict_start, if_neg ha]
  by_cases hshort : blocked.length ≤ 253
  · have hmod : (blocked.length + 2) % 256 = (Bpf.denyTable blocked).length + 1 + 1 := by
      rw [Bpf.denyTable_length]
      omega
    rw [hmod, if_pos (Or.inl hshort), Bpf.run, Bpf.run_skip_append]
    rfl
  · simp only [hshort, false_or]
    rcases hmod : (blocked.length + 2) % 256 with _ | skip
    · exact Bpf.run_denyTable _ _ _ _ _ _
    · have hskip : skip + 255 ≤ blocked.length := by omega
      rw [if_neg (Nat.succ_ne_zero skip), Bpf.run, Bpf.run_drop, drop_append, Bpf.denyTable_drop,
        Bpf.denyTable_length, Nat.sub_eq_zero_of_le (by omega), drop_zero, Bpf.run_denyTable,
        Bpf.reaching_drop hskip]

/-- **A list of at most 253 entries denies every call of another architecture.** Of a longer one the jump is too long for
a byte and lands in the list, or before it. -/
theorem denies_foreign {a} (ha : a ≠ arch.audit) (nr : ℕ) : Denies (buildSeccompErrnoFilter arch blocked) a nr ↔
      blocked.length ≤ 253 ∨ (if (blocked.length + 2) % 256 = 0 then nr else a) ∈ Bpf.reaching blocked :=
  denies_of_verdict (verdict_foreign arch blocked ha nr)

theorem length_buildSeccompErrnoFilter : (buildSeccompErrnoFilter arch blocked).length = blocked.length + 6 := by
  simp [buildSeccompErrnoFilter]

theorem installed_of_lt {arch blocked} (h : blocked.length + 6 < 2 ^ 16) :
    installed (buildSeccompErrnoFilter arch blocked) = buildSeccompErrnoFilter arch blocked := by
  rw [installed, length_buildSeccompErrnoFilter, Nat.mod_eq_of_lt h, ← length_buildSeccompErrnoFilter arch, take_length]

theorem jumpsInside_buildSeccompErrnoFilter : Bpf.jumpsInside (buildSeccompErrnoFilter arch blocked) = true := by
  have htable : Bpf.jumpsInside (Bpf.denyTable blocked ++ [.ret retAllow, .ret retErrno, .ret retKill]) = true :=
    Bpf.jumpsInside_denyTable blocked rfl (by decide)
  simp only [buildSeccompErrnoFilter, cons_append, nil_append, Bpf.jumpsInside,
    length_cons, length_append, Bpf.denyTable_length, htable, Bool.and_eq_true, decide_eq_true_eq,
    and_true]
  omega

/-- **The kernel takes a filter exactly if it has no more than 4096 instructions**: what is left of a length that does
not fit 16 bits does not end with an answer. -/
theorem check_installed :
    Bpf.check (installed (buildSeccompErrnoFilter arch blocked)) = true ↔ blocked.length + 6 ≤ 4096 := by
  by_cases hfits : blocked.length + 6 < 2 ^ 16
  · rw [installed_of_lt hfits, Bpf.check, length_buildSeccompErrnoFilter, Bool.and_eq_true, Bool.and_eq_true,
      decide_eq_true_eq]
    have hends : Bpf.endsInRet (buildSeccompErrnoFilter arch blocked) = true := by
      rw [Bpf.endsInRet, buildSeccompErrnoFilter, List.getLast?_append]
      rfl
    exact ⟨fun h => h.1.1, fun h => ⟨⟨h, jumpsInside_buildSeccompErrnoFilter arch blocked⟩, hends⟩⟩
  · refine iff_of_false ?_ (by omega)
    intro hcheck
    rw [Bpf.check, Bool.and_eq_true] at hcheck
    obtain ⟨_, hk⟩ := Bpf.exists_ret_of_endsInRet hcheck.2
    have hfront : installed (buildSeccompErrnoFilter arch blocked) <+:
        [.load 4, .jeq arch.audit 0 ((blocked.length + 2) % 256), .load 0] ++ Bpf.denyTable blocked := by
      rw [installed, buildSeccompErrnoFilter, take_append_of_le_length]
      · exact take_prefix _ _
      · simp
        omega
    rcases mem_append.mp (hfront.subset hk) with hmem | hmem
    · simp at hmem
    · exact Bpf.ret_not_mem_denyTable _ _ hmem

/-- **What a filter answers.** All jumps land inside the program. The answer is the one that is meant exactly if the
call is of the guest's architecture, and its number is not only among the entries from which the byte of a jump is too
small: the jump for another architecture is short by one, and lands on the refusal. -/
theorem verdict_meant_iff (a nr : ℕ) :
    Bpf.jumpsInside (buildSeccompErrnoFilter arch blocked) = true ∧
    (verdict (buildSeccompErrnoFilter arch blocked) a nr =
        some (if a ≠ arch.audit then retKill else if nr ∈ blocked then retErrno else retAllow) ↔
      a = arch.audit ∧ (nr ∈ blocked → nr ∈ Bpf.reaching blocked)) := by
  refine ⟨jumpsInside_buildSeccompErrnoFilter arch blocked, ?_⟩
  by_cases ha : a = arch.audit
  · subst ha
    have hmem : nr ∈ Bpf.reaching blocked → nr ∈ blocked := fun h => mem_of_mem_drop h
    rw [verdict_native]
    by_cases hnr : nr ∈ Bpf.reaching blocked
    · simp [hnr, hmem hnr]
    · by_cases hblocked : nr ∈ blocked
      · simp [hnr, retErrno, retAllow]
      · simp [hnr, hblocked]
  · rw [verdict_foreign arch blocked ha]
    refine iff_of_false (fun h => ?_) fun h => ha h.1
    split_ifs at h <;> cases h

/-- A call of another architecture is refused, and the process goes on; of 256 numbers the first is not denied. -/
theorem foreign_refused :
    verdict (buildSeccompErrnoFilter .x86_64 [169]) (Arch.aarch64).audit 0 = some retErrno ∧
    verdict (buildSeccompErrnoFilter .x86_64 (range 256)) (Arch.x86_64).audit 0 = some retAllow := by
  decide +kernel

end A3sBox.Guest
