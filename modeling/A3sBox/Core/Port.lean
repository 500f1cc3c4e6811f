import A3sBox.Library.Text

/-!
# Published ports

`core/src/port.rs`: a published port is written `host_port:guest_port[/tcp]`. `parsePortMapping_runtimeEntry`: the
runtime form of a mapping is read back, so normalizing twice is normalizing once.
-/

namespace A3sBox.Port

open Text List

/-- The protocols a port may be published with. -/
inductive PortProtocol where
  | tcp
  deriving DecidableEq, Repr

/-- A published port, parsed. -/
structure PortMapping where
  hostPort : ℕ
  guestPort : ℕ
  protocol : PortProtocol
  deriving DecidableEq, Repr

/-- The normalized runtime form, `host:guest`. -/
def PortMapping.runtimeEntry (m : PortMapping) : String :=
  String.ofList (showNat m.hostPort ++ ':' :: showNat m.guestPort)

/-- One port of a mapping, a 16-bit number. -/
def parsePort (input value : List Char) (label : String) (allowZero : Bool) : Except String ℕ :=
  let inp := String.ofList input
  if value = [] then
    .error s!"Invalid port mapping '{inp}': {label} port must not be empty"
  else if '-' ∈ value then
    .error s!"Invalid port mapping '{inp}': {label} port ranges are not supported"
  else
    match parseInt 65535 value with
    | .error _ =>
      .error s!"Invalid port mapping '{inp}': {label} port '{String.ofList value}' must be 0..=65535"
    | .ok port =>
      if port = 0 ∧ allowZero = false then
        .error s!"Invalid port mapping '{inp}': guest port must be 1..=65535"
      else .ok port

/-- The protocol after the slash, if there is a slash. -/
def parseProtocol (input : List Char) : List (List Char) → Except String PortProtocol
  | [] => .ok .tcp
  | value :: rest =>
    if eqIgnoreAsciiCase value "tcp".toList then
      if rest = [] then .ok .tcp
      else .error s!"Invalid port mapping '{String.ofList input}': expected host_port:guest_port[/tcp]"
    else if value = [] then
      .error s!"Invalid port mapping '{String.ofList input}': protocol must not be empty"
    else
      .error s!"Unsupported port mapping protocol '{String.ofList value}' in '{String.ofList input}'; only TCP is supported"

/-- Read a port mapping. -/
def parsePortMapping (entry : String) : Except String PortMapping :=
  let input := trim entry.toList
  if input = [] then .error "Invalid port mapping: value must not be empty"
  else
    let pieces := input.splitOn '/'
    match parseProtocol input pieces.tail with
    | .error e => .error e
    | .ok protocol =>
      match (pieces.headD []).splitOn ':' with
      | [host, guest] =>
        match parsePort input host "host" true with
        | .error e => .error e
        | .ok hostPort =>
          match parsePort input guest "guest" false with
          | .error e => .error e
          | .ok guestPort => .ok ⟨hostPort, guestPort, protocol⟩
      | _ => .error s!"Invalid port mapping '{String.ofList input}': expected host_port:guest_port[/tcp]; bind-specific host IPs, single-port shorthand, and port ranges are not supported"

/-- Validate and normalize port mappings; the first bad one is the error. -/
def normalizePortMaps (entries : List String) : Except String (List String) :=
  entries.mapM fun entry => (parsePortMapping entry).map PortMapping.runtimeEntry

variable {n : ℕ} {m : PortMapping}

/-- A port that is a 16-bit number, and not `0` where `0` is not allowed, is read back. -/
theorem parsePort_showNat (input : List Char) (label : String) (allowZero : Bool) (h : n ≤ 65535)
    (hz : allowZero = false → n ≠ 0) : parsePort input (showNat n) label allowZero = .ok n := by
  unfold parsePort
  have hdash : ('-' : Char) ∉ showNat n := not_mem_showNat rfl
  have hzero : ¬ (n = 0 ∧ allowZero = false) := fun ⟨h0, ha⟩ => hz ha h0
  simp [showNat_ne_nil, hdash, parseInt_showNat h, hzero]

theorem parsePort_ok {input value label allowZero}
    (h : parsePort input value label allowZero = .ok n) : n ≤ 65535 ∧ (allowZero = false → n ≠ 0) := by
  unfold parsePort at h
  split_ifs at h
  split at h
  · cases h
  next port hport =>
    split_ifs at h with hzero
    cases h
    exact ⟨parseInt_le hport, fun hallow h0 => hzero ⟨h0, hallow⟩⟩

theorem parsePortMapping_ok {entry} (h : parsePortMapping entry = .ok m) :
    m.hostPort ≤ 65535 ∧ m.guestPort ≤ 65535 ∧ m.guestPort ≠ 0 := by
  unfold parsePortMapping at h
  simp only at h
  split_ifs at h
  split at h
  · cases h
  split at h
  · split at h
    · cases h
    next hostPort hhost =>
      split at h
      · cases h
      next guestPort hguest =>
        cases h
        obtain ⟨hle, hne⟩ := parsePort_ok hguest
        exact ⟨(parsePort_ok hhost).1, hle, hne rfl⟩
  · cases h

/-- **Normalizing is idempotent**: the runtime form of a mapping is read back as the mapping. -/
theorem parsePortMapping_runtimeEntry (hh : m.hostPort ≤ 65535) (hg : m.guestPort ≤ 65535) (hg0 : m.guestPort ≠ 0) :
    parsePortMapping m.runtimeEntry = .ok m := by
  obtain ⟨host, guest, ⟨⟩⟩ := m
  have hws : ∀ c ∈ showNat host ++ ':' :: showNat guest, isWhitespace c = false := by
    have hdigits : ∀ n, ∀ c ∈ showNat n, isWhitespace c = false := fun _ _ => isWhitespace_of_mem_showNat
    exact forall_mem_append.mpr ⟨hdigits host, forall_mem_cons.mpr ⟨rfl, hdigits guest⟩⟩
  have htrim := trim_eq_self hws
  have hslash : ('/' : Char) ∉ showNat host ++ ':' :: showNat guest := by
    simp [not_mem_showNat (c := '/') rfl]
  have hsplit : (showNat host ++ ':' :: showNat guest).splitOn ':' = [showNat host, showNat guest] := by
    rw [splitOn_append_cons_self_of_not_mem (not_mem_showNat rfl), splitOn_eq_singleton (not_mem_showNat rfl)]
  unfold parsePortMapping PortMapping.runtimeEntry
  simp only [String.toList_ofList, htrim, splitOn_eq_singleton hslash, headD_cons,
    parseProtocol, hsplit, parsePort_showNat _ _ true hh (by simp), parsePort_showNat _ _ false hg (fun _ => hg0)]
  simp

end A3sBox.Port
