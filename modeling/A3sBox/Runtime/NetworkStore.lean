import A3sBox.Core.Network
import A3sBox.Library.Processes

/-!
# The network store

`runtime/src/network/store.rs`: all networks are in one JSON file. To connect a box, a process loads the network,
connects the box and writes the network back with `update`, which loads the file once more and replaces it through a
temporary file.

## The model

The file holds the networks, or a text that does not parse. To read it, to write the temporary file and to rename that
are one step each, and may fail. There is no lock. What a caller checks before it connects a box is a parameter of the
`Request`.

`connected_boxes_kept`: if processes do not overlap, every endpoint is in the file, and no address is given to two
boxes. `overlapping_lost` is a run in which two overlap.
-/

namespace A3sBox.Network.Store

open Processes AList

/-! ### The file -/

/-- The networks by name. -/
abbrev Networks := AList fun _ : String => NetworkConfig

/-- Where the networks are stored, as text. -/
structure NetworkStore where
  path : String
  parent : String
  /-- The temporary file: the path with the extension `json.tmp`. -/
  tmpPath : String
  deriving DecidableEq, Repr

/-- The networks in the file. -/
def load (disk : Disk Networks) : Except BoxError Networks :=
  match disk.file with
  | none => .ok ∅
  | some (.whole networks) => .ok networks
  | some (.broken why) => .error (.networkError s!"failed to parse networks file: {why}")

/-- Put a network in the place of the one with its name. -/
def update (networks : Networks) (config : NetworkConfig) : Except BoxError Networks :=
  let name := config.name
  if name ∈ networks then .ok (networks.insert name config)
  else .error (.networkError s!"network '{name}' not found")

/-- What may fail on the disk. -/
inductive Operation where
  | read
  | createDir
  | serialize
  | write
  | rename
  deriving DecidableEq, Repr

/-- The error of an operation. -/
def NetworkStore.ioError (store : NetworkStore) (why : String) : Operation → BoxError
  | .read => let path := store.path; .networkError s!"failed to read networks file {path}: {why}"
  | .createDir => let parent := store.parent; .networkError s!"failed to create directory {parent}: {why}"
  | .serialize => .networkError s!"failed to serialize networks: {why}"
  | .write => let tmpPath := store.tmpPath; .networkError s!"failed to write tmp file {tmpPath}: {why}"
  | .rename =>
    let path := store.path
    let tmpPath := store.tmpPath
    .networkError s!"failed to rename {tmpPath} → {path}: {why}"

/-! ### A process that connects a box -/

/-- What a process is to do. -/
structure Request where
  network : String
  boxId : String
  boxName : String
  aliases : List String
  check : NetworkConfig → Except String Unit

/-- Where a process is. -/
inductive Phase where
  | start
  /-- It has connected the box, and has to load the file again. -/
  | connected (config : NetworkConfig) (endpoint : NetworkEndpoint)
  | writing (networks : Networks) (endpoint : NetworkEndpoint)
  /-- It has to rename the temporary file. -/
  | written (endpoint : NetworkEndpoint)
  | done (endpoint : NetworkEndpoint)
  | failed (fault : Fault String)

/-- Between the first load and the rename. -/
def Phase.inside : Phase → Prop
  | .connected _ _ | .writing _ _ | .written _ => True
  | .start | .done _ | .failed _ => False

/-- What a process does on the disk next. -/
def Phase.operations : Phase → List Operation
  | .start | .connected _ _ => [.read]
  | .writing _ _ => [.createDir, .serialize, .write]
  | .written _ => [.rename]
  | .done _ | .failed _ => []

/-- The text of a failed connection. -/
def connectError : Fault String → Fault String
  | .error e => .error s!"Failed to connect to network: {e}"
  | .panic => .panic

/-- Look up the network in what was loaded, check it and connect the box. -/
def afterGet (profile : Profile) (request : Request) : Except BoxError Networks → Phase
  | .error e => .failed (.error e.toText)
  | .ok networks =>
    let name := request.network
    match networks.lookup name with
    | none => .failed (.error s!"network '{name}' not found")
    | some config =>
      match request.check config with
      | .error e => .failed (.error e)
      | .ok () =>
        match config.connectWithAliases profile request.boxId request.boxName request.aliases with
        | (_, .error fault) => .failed (connectError fault)
        | (config, .ok endpoint) => .connected config endpoint

/-- Put the network in its place in what was loaded. -/
def afterLoad (config : NetworkConfig) (endpoint : NetworkEndpoint) (loaded : Except BoxError Networks) : Phase :=
  match loaded.bind fun networks => update networks config with
  | .error e => .failed (.error e.toText)
  | .ok networks => .writing networks endpoint

variable {ι : Type}

/-- The steps of a process. -/
inductive Step (store : NetworkStore) (profile : Profile) (requests : ι → Request) :
    ι → Disk Networks → Phase → Disk Networks → Phase → Prop where
  /-- Load the network and connect the box. -/
  | get {p disk} : Step store profile requests p disk .start disk (afterGet profile (requests p) (load disk))
  | load {p disk config endpoint} :
      Step store profile requests p disk (.connected config endpoint) disk (afterLoad config endpoint (load disk))
  | write {p disk networks endpoint} :
      Step store profile requests p disk (.writing networks endpoint) (disk.write (.whole networks)) (.written endpoint)
  | rename {p disk disk' endpoint} (h : disk.rename = some disk') :
      Step store profile requests p disk (.written endpoint) disk' (.done endpoint)
  | fails {p disk phase} (why : String) {operation} (h : operation ∈ phase.operations) :
      Step store profile requests p disk phase disk (.failed (.error (store.ioError why operation).toText))
  | writeFails {p disk networks endpoint} (why text : String) :
      Step store profile requests p disk (.writing networks endpoint) (disk.write (.broken text))
        (.failed (.error (store.ioError why .write).toText))

variable (disk : Disk Networks)

/-- The processes, before their first steps. -/
def initial : State ι (Disk Networks) Phase := ⟨disk, fun _ => .start⟩

/-- The condition on a step: a process loads the network only while no other is between its load and its rename. -/
def Apart (s : State ι (Disk Networks) Phase) (p : ι) (_ : Disk Networks) (_ : Phase) : Prop :=
  s.place p = .start → ∀ q, q ≠ p → ¬ (s.place q).inside

/-- No address is given to two boxes. -/
def DistinctIps (config : NetworkConfig) : Prop :=
  ∀ box₁ box₂ e₁ e₂, config.endpoints.lookup box₁ = some e₁ → config.endpoints.lookup box₂ = some e₂ →
    e₁.ipAddress = e₂.ipAddress → box₁ = box₂

/-- Every network is stored under its name and gives no address to two boxes. -/
def Sound : Prop :=
  ∀ networks, disk.file = some (.whole networks) → ∀ name config, networks.lookup name = some config →
    config.name = name ∧ DistinctIps config

/-- An endpoint is in the file. -/
def Stored (request : Request) (endpoint : NetworkEndpoint) : Prop :=
  ∃ networks config, disk.file = some (.whole networks) ∧ networks.lookup request.network = some config ∧
    config.endpoints.lookup request.boxId = some endpoint

/-! ### One connection -/

variable {profile : Profile} {config config' : NetworkConfig} {endpoint : NetworkEndpoint} {disk disk' : Disk Networks}
  {networks : Networks} {request : Request}

variable {boxId : String} {phase : Phase}

/-- A box that was connected had no endpoint; it has a free address, and is added to the network. -/
theorem connect_ok {boxName aliases}
    (h : config.connectWithAliases profile boxId boxName aliases = (config', .ok endpoint)) :
    boxId ∉ config.endpoints ∧ config' = { config with endpoints := config.endpoints.insert boxId endpoint } ∧
      ∀ box e, config.endpoints.lookup box = some e → e.ipAddress ≠ endpoint.ipAddress := by
  unfold NetworkConfig.connectWithAliases at h
  split_ifs at h with hmem
  · cases h
  rcases hipam : Ipam.new config.subnet with e | ipam
  · rw [hipam] at h
    cases h
  rcases hip : ipam.allocate profile (config.endpoints.entries.map fun e => e.2.ipAddress) with _ | _
  · simp [hipam, hip] at h
  · simp only [hipam, hip] at h
    obtain ⟨rfl, rfl⟩ := h
    refine ⟨hmem, rfl, fun box e hbox hsame => ?_⟩
    exact (Ipam.allocate_ok hip).1 (List.mem_map.mpr ⟨_, mem_lookup_iff.mp hbox, hsame⟩)

section

variable (profile : Profile) (request : Request)

/-- What a process knows of the network it has connected its box to: it is the one in the file, with the box added. -/
def Connects (networks : Networks) (config : NetworkConfig) (endpoint : NetworkEndpoint) : Prop :=
  ∃ before, networks.lookup request.network = some before ∧
    before.connectWithAliases profile request.boxId request.boxName request.aliases = (config, .ok endpoint)

theorem afterGet_cases (loaded : Except BoxError Networks) :
    (∃ fault, afterGet profile request loaded = .failed fault) ∨
      ∃ networks config endpoint, loaded = .ok networks ∧ Connects profile request networks config endpoint ∧
        afterGet profile request loaded = .connected config endpoint := by
  rcases loaded with _ | networks
  · exact .inl ⟨_, rfl⟩
  simp only [afterGet]
  rcases hlookup : networks.lookup request.network with _ | before
  · exact .inl ⟨_, rfl⟩
  dsimp only
  rcases request.check before with _ | _
  · exact .inl ⟨_, rfl⟩
  rcases hconnect : before.connectWithAliases profile request.boxId request.boxName request.aliases with
    ⟨config, fault | endpoint⟩
  · exact .inl ⟨_, rfl⟩
  · exact .inr ⟨networks, config, endpoint, rfl, ⟨before, hlookup, hconnect⟩, rfl⟩

theorem load_ok (h : load disk = .ok networks) :
    disk.file = none ∧ networks = ∅ ∨ disk.file = some (.whole networks) := by
  rw [load] at h
  rcases hfile : disk.file with _ | (_ | _)
  · rw [hfile] at h
    exact .inl ⟨rfl, (Except.ok.inj h).symm⟩
  · rw [hfile] at h
    rw [Except.ok.inj h]
    exact .inr rfl
  · rw [hfile] at h
    cases h

theorem load_whole (h : disk.file = some (.whole networks)) : load disk = .ok networks := by
  rw [load, h]

/-! ### What is known while a process runs -/

/-- What is known of a process: in its window the file is the one it has loaded, and the temporary file its own;
afterwards its endpoint is in the file. -/
def Knows (disk : Disk Networks) : Phase → Prop
  | .connected config endpoint =>
    ∃ networks, disk.file = some (.whole networks) ∧ Connects profile request networks config endpoint
  | .writing next endpoint =>
    ∃ networks config, disk.file = some (.whole networks) ∧ Connects profile request networks config endpoint ∧
      next = networks.insert config.name config
  | .written endpoint =>
    ∃ networks config, disk.file = some (.whole networks) ∧ Connects profile request networks config endpoint ∧
      disk.tmp = some (.whole (networks.insert config.name config))
  | .done endpoint => Stored disk request endpoint
  | .start | .failed _ => True

theorem knows_afterGet (disk) : Knows profile request disk (afterGet profile request (load disk)) := by
  rcases afterGet_cases profile request (load disk) with ⟨_, h⟩ | ⟨networks, _, _, hload, hconnects, h⟩
  · rw [h]
    trivial
  · rw [h]
    rcases load_ok hload with ⟨_, rfl⟩ | hfile
    · obtain ⟨_, hbefore, _⟩ := hconnects
      cases hbefore
    · exact ⟨networks, hfile, hconnects⟩

end

theorem knows_afterLoad (h : Knows profile request disk (.connected config endpoint)) :
    Knows profile request disk (afterLoad config endpoint (load disk)) := by
  obtain ⟨networks, hfile, hconnects⟩ := h
  simp only [load_whole hfile, afterLoad, Except.bind, update]
  split_ifs
  · exact ⟨networks, config, hfile, hconnects, rfl⟩
  · trivial

theorem distinctIps_insert (h : DistinctIps config)
    (hfree : ∀ box e, config.endpoints.lookup box = some e → e.ipAddress ≠ endpoint.ipAddress) :
    DistinctIps { config with endpoints := config.endpoints.insert boxId endpoint } := by
  intro box₁ box₂ e₁ e₂ h₁ h₂ hsame
  rcases Totals.lookup_of_insert h₁ with ⟨rfl, rfl⟩ | ⟨-, hold₁⟩ <;>
    rcases Totals.lookup_of_insert h₂ with ⟨rfl, rfl⟩ | ⟨-, hold₂⟩
  · rfl
  · exact absurd hsame.symm (hfree box₂ e₂ hold₂)
  · exact absurd hsame (hfree box₁ e₁ hold₁)
  · exact h box₁ box₂ e₁ e₂ hold₁ hold₂ hsame

section Rename

variable (hsound : Sound disk) (h : Knows profile request disk (.written endpoint)) (hrename : disk.rename = some disk')
include hsound h hrename

theorem rename_eq :
    ∃ networks before, disk.file = some (.whole networks) ∧ networks.lookup request.network = some before ∧
      request.boxId ∉ before.endpoints ∧
      (∀ box e, before.endpoints.lookup box = some e → e.ipAddress ≠ endpoint.ipAddress) ∧
      disk' = ⟨some (.whole (networks.insert request.network
        { before with endpoints := before.endpoints.insert request.boxId endpoint })), none⟩ := by
  obtain ⟨networks, config, hfile, hconnects, htmp⟩ := h
  obtain ⟨before, hbefore, hconnect⟩ := hconnects
  obtain ⟨hnew, hconfig, hfree⟩ := connect_ok hconnect
  have hname : config.name = request.network := by
    rw [hconfig]
    exact (hsound networks hfile _ _ hbefore).1
  rw [Disk.rename, htmp, hname, hconfig] at hrename
  exact ⟨networks, before, hfile, hbefore, hnew, hfree, (Option.some.inj hrename).symm⟩

theorem stored_rename_other {other e} (hother : Stored disk other e) : Stored disk' other e := by
  obtain ⟨networks, before, hfile, hbefore, hnew, _, rfl⟩ := rename_eq hsound h hrename
  obtain ⟨found, config, hfound, hconfig, hbox⟩ := hother
  obtain rfl : networks = found := by simpa [hfile] using hfound
  by_cases hnetwork : other.network = request.network
  · obtain rfl : before = config := by
      rw [hnetwork, hbefore] at hconfig
      exact Option.some.inj hconfig
    have hne : other.boxId ≠ request.boxId := by
      rintro hsame
      exact hnew (lookup_isSome.1 (by rw [← hsame, hbox]; rfl))
    refine ⟨_, { before with endpoints := before.endpoints.insert request.boxId endpoint }, rfl, ?_, ?_⟩
    · rw [hnetwork, lookup_insert]
    · rw [lookup_insert_ne hne, hbox]
  · refine ⟨_, config, rfl, ?_, hbox⟩
    rw [lookup_insert_ne hnetwork, hconfig]

/-- The rename gives no address to two boxes. -/
theorem sound_rename : Sound disk' := by
  obtain ⟨networks, _, hfile, hbefore, _, hfree, rfl⟩ := rename_eq hsound h hrename
  obtain ⟨hname, hdistinct⟩ := hsound networks hfile _ _ hbefore
  rintro _ ⟨⟩ name config hconfig
  rcases Totals.lookup_of_insert hconfig with ⟨rfl, rfl⟩ | ⟨-, hconfig⟩
  · exact ⟨hname, distinctIps_insert hdistinct hfree⟩
  · exact hsound networks hfile name config hconfig

end Rename

/-- What is known of a process outside its window is only that its endpoint is in the file. -/
theorem knows_outside (houtside : ¬ phase.inside) (hstored : ∀ e, Stored disk request e → Stored disk' request e)
    (h : Knows profile request disk phase) : Knows profile request disk' phase := by
  cases phase with
  | start => trivial
  | connected config endpoint | writing networks endpoint | written endpoint => exact absurd trivial houtside
  | done endpoint => exact hstored endpoint h
  | failed => trivial

/-- A process enters its window with its first load. -/
theorem start_of_enter {store : NetworkStore} {requests : ι → Request} {p : ι} {phase' : Phase}
    (h : Step store profile requests p disk phase disk' phase') (houtside : ¬ phase.inside) (hinside : phase'.inside) :
    phase = .start := by
  cases h with
  | get => rfl
  | load | write | rename h => exact absurd trivial houtside
  | fails why h | writeFails why text => exact hinside.elim

/-! ### Runs -/

theorem step_rule (store : NetworkStore) (profile) (requests : ι → Request) :
    Rule (Step store profile requests) Apart Phase.inside Sound fun p => Knows profile (requests p) where
  shared hsound hknows hstep := by
    cases hstep with
    | get | load | write | fails why h | writeFails why text => exact hsound
    | rename hrename => exact sound_rename hsound hknows hrename
  own hsound hknows hstep := by
    cases hstep with
    | get => exact knows_afterGet _ _ _
    | load => exact knows_afterLoad hknows
    | write =>
      obtain ⟨networks, config, hfile, hconnects, rfl⟩ := hknows
      exact ⟨networks, config, hfile, hconnects, rfl⟩
    | rename hrename =>
      obtain ⟨_, _, _, _, _, _, rfl⟩ := rename_eq hsound hknows hrename
      exact ⟨_, _, rfl, lookup_insert _, lookup_insert _⟩
    | fails => trivial
    | writeFails => trivial
  other hne hsound hknows hother hinside hstep := by
    cases hstep with
    | get | load | fails why h => exact hother
    | write | writeFails why text =>
      refine knows_outside (fun hk => hinside ⟨trivial, hk⟩) (fun _ hstored => ?_) hother
      exact hstored
    | rename hrename =>
      exact knows_outside (fun hk => hinside ⟨trivial, hk⟩)
        (fun _ hstored => stored_rename_other hsound hknows hrename hstored) hother
  enter known hstep meets houtside hinside := meets (start_of_enter hstep houtside hinside)

variable [DecidableEq ι]

/-- **Connections that do not overlap are kept.** If a process loads the network only while no other is between its load
and its rename, the file has the endpoint of every process that has succeeded, and gives no address to two boxes of a
network. -/
theorem connected_boxes_kept {store : NetworkStore} {profile : Profile} {requests : ι → Request} {disk : Disk Networks}
    (hdisk : Sound disk) {s : State ι (Disk Networks) Phase}
    (h : Run (Step store profile requests) Apart (initial disk) s) :
    (∀ p endpoint, s.place p = .done endpoint → Stored s.shared (requests p) endpoint) ∧
      ∀ networks name config, s.shared.file = some (.whole networks) → networks.lookup name = some config →
        DistinctIps config := by
  have hknown := (step_rule store profile requests).holds h
    ⟨hdisk, fun p => trivial, fun p q hp => hp.elim⟩
  refine ⟨fun p endpoint hdone => ?_, fun networks name config hfile hconfig => ?_⟩
  · have hown := hknown.own p
    rw [hdone] at hown
    exact hown
  · exact (hknown.shared networks hfile name config hconfig).2

/-- Two processes connect two boxes. -/
def twoBoxes (p : Bool) : Request :=
  let box := if p then "b" else "a"
  ⟨"net", box, box, [], fun _ => .ok ()⟩

/-- The endpoint of a box, with an address of the network `10.88.0.0/24`. -/
def endpointAt (box : String) (ip : Ipv4Addr) : NetworkEndpoint := ⟨box, box, [], ip, macFromIp ip⟩

/-- That network with a box that has the first address. -/
def withBox (box : String) : NetworkConfig :=
  { bridgeConfig with endpoints := insert box (endpointAt box ⟨0x0A580002⟩) ∅ }

/-- A file with one network. -/
def fileWith (config : NetworkConfig) : Disk Networks := ⟨some (.whole (singleton "net" config)), none⟩

/-- Where the networks of these examples are stored. -/
def bridgeStore : NetworkStore := ⟨"/a3s/networks.json", "/a3s", "/a3s/networks.json.tmp"⟩

theorem connect_bridgeConfig (box : String) :
    bridgeConfig.connectWithAliases .release box box [] = (withBox box, .ok (endpointAt box ⟨0x0A580002⟩)) := by
  rfl

theorem step_get {p}
    (h : config.connectWithAliases .release (twoBoxes p).boxId (twoBoxes p).boxName [] = (config', .ok endpoint)) :
    Step bridgeStore .release twoBoxes p (fileWith config) .start (fileWith config) (.connected config' endpoint) := by
  have hget : afterGet .release (twoBoxes p) (load (fileWith config)) = .connected config' endpoint := by
    have hlookup : (singleton "net" config : Networks).lookup (twoBoxes p).network = some config := rfl
    have haliases : (twoBoxes p).aliases = [] := rfl
    have hcheck : (twoBoxes p).check config = .ok () := rfl
    simp [afterGet, load, fileWith, hlookup, hcheck, haliases, h]
  rw [← hget]
  exact .get

theorem step_load (p : Bool) (hname : config'.name = "net") (endpoint) :
    Step bridgeStore .release twoBoxes p (fileWith config) (.connected config' endpoint) (fileWith config)
      (.writing (singleton "net" config') endpoint) := by
  have hload : afterLoad config' endpoint (load (fileWith config)) = .writing (singleton "net" config') endpoint := by
    have hmem : "net" ∈ (singleton "net" config : Networks) := List.mem_singleton_self _
    simp only [afterLoad, load, fileWith, Except.bind, update, hname, hmem, if_true, insert_singleton_eq]
  rw [← hload]
  exact .load

theorem sound_bridge : Sound (fileWith bridgeConfig) := by
  rintro _ ⟨⟩ name config hconfig
  have hmem : (⟨name, config⟩ : (_ : String) × NetworkConfig) ∈
      [(⟨"net", bridgeConfig⟩ : (_ : String) × NetworkConfig)] :=
    mem_lookup_iff.1 hconfig
  cases List.mem_singleton.1 hmem
  exact ⟨rfl, nofun⟩

theorem one_after_the_other_kept : ∃ s : State Bool (Disk Networks) Phase,
      Run (Step bridgeStore .release twoBoxes) Apart (initial (fileWith bridgeConfig)) s ∧
        Stored s.shared (twoBoxes false) (endpointAt "a" ⟨0x0A580002⟩) ∧
        Stored s.shared (twoBoxes true) (endpointAt "b" ⟨0x0A580003⟩) := by
  have h₁ : Run (Step bridgeStore .release twoBoxes) Apart (initial (fileWith bridgeConfig)) _ :=
    .step false .start (step_get (connect_bridgeConfig "a")) (fun _ _ _ h => h.elim)
  have h₂ := h₁.step false (step_load false rfl _) nofun
  have h₃ := h₂.step false .write nofun
  have h₄ := h₃.step false (.rename rfl) nofun
  have h₅ := h₄.step true (step_get rfl) (fun _ q hq => by cases q <;> simp_all [Phase.inside])
  have h₆ := h₅.step true (step_load true rfl _) nofun
  have h₇ := h₆.step true .write nofun
  have h₈ := h₇.step true (.rename rfl) nofun
  have hkept := connected_boxes_kept sound_bridge h₈
  exact ⟨_, h₈, hkept.1 false _ rfl, hkept.1 true _ rfl⟩

theorem overlapping_lost : ∃ s : State Bool (Disk Networks) Phase,
      Run (Step bridgeStore .release twoBoxes) (fun _ _ _ _ => True) (initial (fileWith bridgeConfig)) s ∧
        s.place false = .done (endpointAt "a" ⟨0x0A580002⟩) ∧ s.place true = .done (endpointAt "b" ⟨0x0A580002⟩) ∧
        ¬ Stored s.shared (twoBoxes false) (endpointAt "a" ⟨0x0A580002⟩) := by
  have h₁ : Run (Step bridgeStore .release twoBoxes) (fun _ _ _ _ => True) (initial (fileWith bridgeConfig)) _ :=
    .step false .start (step_get (connect_bridgeConfig "a")) trivial
  have h₂ := h₁.step true (step_get (connect_bridgeConfig "b")) trivial
  have h₃ := h₂.step false (step_load false rfl _) trivial
  have h₄ := h₃.step false .write trivial
  have h₅ := h₄.step false (.rename rfl) trivial
  have h₆ := h₅.step true (step_load true rfl _) trivial
  have h₇ := h₆.step true .write trivial
  have h₈ := h₇.step true (.rename rfl) trivial
  refine ⟨_, h₈, rfl, rfl, ?_⟩
  rintro ⟨networks, config, hfile, hconfig, hbox⟩
  obtain rfl : singleton "net" (withBox "b") = networks := Content.whole.inj (Option.some.inj hfile)
  obtain rfl : withBox "b" = config := Option.some.inj hconfig
  exact absurd hbox (by decide)

end A3sBox.Network.Store
