import A3sBox.Library.Ipv6
import A3sBox.Library.Slices

/-!
# Host names and security options

`core/src/dns.rs` and `core/src/security.rs`: which host names, further hosts and security options are accepted before
a box is booted.
-/

namespace A3sBox.Options

open Text Slices

/-! ### Host names -/

/-- A host name and its address. -/
structure HostEntry where
  host : String
  ip : String
  deriving DecidableEq, Repr

/-- Check a label of a host name. -/
def validateLabel (hostname : String) (label : List Char) : Except String Unit :=
  let text := String.ofList label
  if label = [] then .error s!"hostname '{hostname}' contains an empty label"
  else if 63 < byteLen label then .error s!"hostname label '{text}' is longer than 63 characters"
  else if label.head? = some '-' ∨ label.getLast? = some '-' then
    .error s!"hostname label '{text}' must not start or end with '-'"
  else if label.all fun c => c.isAlphanum || c == '-' then .ok ()
  else .error s!"hostname label '{text}' contains unsupported characters"

/-- Check a host name. -/
def validateHostname (hostname : String) : Except String Unit :=
  let text := hostname.toList
  if text = [] then .error "hostname must not be empty"
  else if 253 < byteLen text then .error "hostname must be at most 253 characters"
  else if text.any fun c => c == '\x00' || isWhitespace c then
    .error "hostname must not contain whitespace or NUL bytes"
  else ((text.reverse.dropWhile (· == '.')).reverse.splitOn '.').forM (validateLabel hostname)

/-- A further host, `HOST:IP`. -/
def parseAddHostEntry (entry : String) : Except String HostEntry :=
  match splitOnce ':' entry.toList with
  | none => .error s!"expected HOST:IP, got '{entry}'"
  | some (host, ip) => do
    let host := String.ofList host
    (validateHostname host).mapError fun e => s!"invalid host '{host}': {e}"
    let ip := trim ip
    let text := String.ofList ip
    if ip = [] then .error s!"missing IP address in '{entry}'"
    else if Ipv6Addr.isIpAddr ip then .ok ⟨host, text⟩
    else .error s!"invalid IP address '{text}' in '{entry}'"

/-- Further hosts; the first bad one is the error. -/
def parseAddHostEntries (entries : List String) : Except String (List HostEntry) := entries.mapM parseAddHostEntry

/-! ### Security options -/

/-- Which system calls are blocked. -/
inductive SeccompMode where
  | default
  | unconfined
  | custom (path : String)
  deriving DecidableEq, Repr

/-- How the process in the box is restricted. -/
structure SecurityConfig where
  seccomp : SeccompMode := .default
  noNewPrivileges : Bool := true
  capAdd : List String := []
  capDrop : List String := []
  privileged : Bool := false
  deriving DecidableEq, Repr

/-- A profile of one's own cannot be enforced. -/
def SecurityConfig.validate (config : SecurityConfig) : Except String Unit :=
  match config.seccomp with
  | .custom path =>
    .error s!"custom seccomp profile '{path}' is not supported; use seccomp=default or seccomp=unconfined"
  | _ => .ok ()

/-- Apply a security option. -/
def SecurityConfig.apply (config : SecurityConfig) (opt : String) : SecurityConfig :=
  let opt := trim opt.toList
  match stripStart "seccomp=".toList opt with
  | some value =>
    { config with
      seccomp := if value = "unconfined".toList then .unconfined else .custom (String.ofList value) }
  | none =>
    if opt = "no-new-privileges".toList ∨ opt = "no-new-privileges=true".toList then
      { config with noNewPrivileges := true }
    else if opt = "no-new-privileges=false".toList then { config with noNewPrivileges := false }
    else config

/-- The restrictions for given options. -/
def SecurityConfig.fromOptions (securityOpt capAdd capDrop : List String) (privileged : Bool) : SecurityConfig :=
  if privileged then
    { seccomp := .unconfined, noNewPrivileges := false, capAdd := ["ALL"], capDrop := [], privileged := true }
  else securityOpt.foldl SecurityConfig.apply { capAdd, capDrop }

end A3sBox.Options
