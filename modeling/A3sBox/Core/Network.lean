import A3sBox.Core.Error
import A3sBox.Library.Ipv4
import A3sBox.Library.Totals

/-!
# Networks

`core/src/network.rs`: connecting a box to a network allocates the first free address of its subnet and derives a MAC
address. Addresses are machine words, and `Ipam` carries what `Ipam::new` checks. The scan of `allocate` is bounded by
the addresses that are left; its first addition can overflow, as the `Profile` says.

`network_endpoints_distinct`: endpoints are distinct after any calls. `denied_peers_hidden_iff`: the peers that a
policy hides; `denied_peer_under_alias` is one that it does not.
-/

namespace A3sBox.Network

open Text List

/-! ### Addresses of a subnet -/

/-- The addresses of a subnet: its network address, its prefix length and its gateway. -/
structure Ipam where
  network : Ipv4Addr
  prefixLen : ℕ
  gateway : Ipv4Addr
  /-- The prefix length leaves room for a usable subnet. -/
  prefix_range : 1 ≤ prefixLen ∧ prefixLen ≤ 30
  gateway_eq : gateway.toNat = network.toNat + 1

/-- The addresses of the subnet written in `cidr`. -/
def Ipam.new (cidr : String) : Except String Ipam :=
  match cidr.toList.splitOn '/' with
  | [net, pre] =>
    match Ipv4Addr.parse net with
    | none => .error s!"invalid network address '{String.ofList net}': invalid IPv4 address syntax"
    | some network =>
      match parseInt 255 pre with
      | .error e => .error s!"invalid prefix length '{String.ofList pre}': {e.message}"
      | .ok prefixLen =>
        if hp : prefixLen = 0 ∨ 30 < prefixLen then
          .error s!"prefix length {prefixLen} out of range (must be 1-30 for a usable subnet)"
        else if hg : network.toNat + 1 < 2 ^ 32 then
          .ok ⟨network, prefixLen, ⟨network.bits + 1⟩, by omega, by
            have h1 : (1 : UInt32).toNat = 1 := rfl
            simp only [Ipv4Addr.toNat, UInt32.toNat_add, h1] at hg ⊢
            omega⟩
        else .error s!"network address '{String.ofList network.toText}' has no room for a gateway"
  | _ => .error s!"invalid CIDR notation: {cidr}"

/-- The subnet, written. -/
def Ipam.cidr (ipam : Ipam) : String := String.ofList (ipam.network.toText ++ '/' :: showNat ipam.prefixLen)

/-- The last address of the subnet. -/
def Ipam.broadcast (ipam : Ipam) : Ipv4Addr :=
  let hostBits := UInt32.ofNat (32 - ipam.prefixLen)
  ⟨ipam.network.bits ||| ((1 <<< hostBits) - 1)⟩

/-- The scan of `allocate`: `n` addresses from `candidate` on lie below the broadcast address. -/
def scan (gateway : Ipv4Addr) (used : List Ipv4Addr) : ℕ → UInt32 → Option Ipv4Addr
  | 0, _ => none
  | n + 1, candidate =>
    if candidate ≠ gateway.bits ∧ ⟨candidate⟩ ∉ used then some ⟨candidate⟩
    else scan gateway used n (candidate + 1)

/-- The first address that is free, past the network address and the gateway. -/
def Ipam.allocate (profile : Profile) (ipam : Ipam) (used : List Ipv4Addr) : Except (Fault String) Ipv4Addr :=
  -- `net_u32 + 2` is not a checked addition
  if profile = .debug ∧ 2 ^ 32 ≤ ipam.network.toNat + 2 then .error .panic
  else
    let candidate := ipam.network.bits + 2
    match scan ipam.gateway used (ipam.broadcast.toNat - candidate.toNat) candidate with
    | some ip => .ok ip
    | none => .error (.error "no available IP addresses in subnet")

/-- The MAC address made from an IP address: the prefix `02:42` and the four octets. -/
def macFromIp (ip : Ipv4Addr) : String :=
  let (a, b, c, d) := ip.octets
  String.ofList ("02:42:".toList ++ hex2 a ++ ':' :: hex2 b ++ ':' :: hex2 c ++ ':' :: hex2 d)

/-! ### Policies -/

/-- What a policy rule does with the traffic it matches. -/
inductive PolicyAction where
  | allow
  | deny
  deriving DecidableEq, Repr

/-- A rule about the traffic between two boxes. -/
structure PolicyRule where
  fromName : String
  toName : String
  ports : List ℕ
  protocol : String
  action : PolicyAction
  deriving DecidableEq, Repr

/-- How boxes on a network are kept apart. -/
inductive IsolationMode where
  | none
  | strict
  | custom
  deriving DecidableEq, Repr

/-- The isolation policy of a network. -/
structure NetworkPolicy where
  isolation : IsolationMode
  /-- Who may receive from whom. -/
  ingress : List PolicyRule
  /-- Who may send to whom. -/
  egress : List PolicyRule
  deriving DecidableEq, Repr

/-- All see each other. -/
def NetworkPolicy.default : NetworkPolicy := ⟨.none, [], []⟩

/-- A pattern is a name or `*`. -/
def matchesPattern (pattern name : String) : Bool := pattern == "*" || pattern == name

/-- The first rule that matches decides, and traffic that none matches is denied. -/
def evaluateRules (source target : String) : List PolicyRule → Bool
  | [] => false
  | rule :: rules =>
    if matchesPattern rule.fromName source && matchesPattern rule.toName target then rule.action == .allow
    else evaluateRules source target rules

/-- Whether a box sees a peer. -/
def NetworkPolicy.isPeerAllowed (policy : NetworkPolicy) (boxName peerName : String) : Bool :=
  match policy.isolation with
  | .none => true
  | .strict => false
  | .custom => evaluateRules boxName peerName policy.egress

/-- The peers that a box sees. -/
def NetworkPolicy.allowedPeers (policy : NetworkPolicy) (boxName : String) (peers : List (String × String)) :
    List (String × String) :=
  peers.filter fun peer => policy.isPeerAllowed boxName peer.2

/-! ### Networks -/

/-- A box's connection to a network. -/
structure NetworkEndpoint where
  boxId : String
  boxName : String
  aliases : List String
  ipAddress : Ipv4Addr
  macAddress : String
  deriving DecidableEq, Repr

/-- A user-defined network. -/
structure NetworkConfig where
  name : String
  subnet : String
  gateway : Ipv4Addr
  driver : String
  labels : AList fun _ : String => String
  endpoints : AList fun _ : String => NetworkEndpoint
  createdAt : String
  policy : NetworkPolicy

/-- A network without endpoints. -/
def NetworkConfig.new (name subnet createdAt : String) : Except String NetworkConfig :=
  match Ipam.new subnet with
  | .error e => .error e
  | .ok ipam => .ok ⟨name, ipam.cidr, ipam.gateway, "bridge", ∅, ∅, createdAt, .default⟩

/-- Allocate an address and register an endpoint for a box, with further names. -/
def NetworkConfig.connectWithAliases (profile : Profile) (cfg : NetworkConfig) (boxId boxName : String)
    (aliases : List String) : NetworkConfig × Except (Fault String) NetworkEndpoint :=
  if boxId ∈ cfg.endpoints then
    (cfg, .error (.error s!"box '{boxId}' is already connected to network '{cfg.name}'"))
  else
    match Ipam.new cfg.subnet with
    | .error e => (cfg, .error (.error e))
    | .ok ipam =>
      let used := cfg.endpoints.entries.map fun e => e.2.ipAddress
      match ipam.allocate profile used with
      | .error e => (cfg, .error e)
      | .ok ip =>
        let endpoint : NetworkEndpoint :=
          { boxId, boxName, aliases := aliases.filter fun a => a ≠ "" ∧ a ≠ boxName
            ipAddress := ip, macAddress := macFromIp ip }
        ({ cfg with endpoints := cfg.endpoints.insert boxId endpoint }, .ok endpoint)

variable (cfg : NetworkConfig)

/-- Remove an endpoint. -/
def NetworkConfig.disconnect (boxId : String) : NetworkConfig × Except (Fault String) NetworkEndpoint :=
  match cfg.endpoints.lookup boxId with
  | none => (cfg, .error (.error s!"box '{boxId}' is not connected to network '{cfg.name}'"))
  | some endpoint => ({ cfg with endpoints := cfg.endpoints.erase boxId }, .ok endpoint)

/-- The address and the names of every other box. -/
def NetworkConfig.peerEndpoints (excludeBoxId : String) : List (String × String) :=
  ((cfg.endpoints.entries.map Sigma.snd).filter fun ep => ep.boxId ≠ excludeBoxId).flatMap fun ep =>
    (ep.boxName :: ep.aliases).map fun name => (String.ofList ep.ipAddress.toText, name)

/-- The name of a box on the network. -/
def NetworkConfig.boxName (boxId : String) : String :=
  ((cfg.endpoints.lookup boxId).map NetworkEndpoint.boxName).getD ""

/-- The peers that a connected box sees. -/
def NetworkConfig.allowedPeerEndpoints (excludeBoxId : String) : List (String × String) :=
  cfg.policy.allowedPeers (cfg.boxName excludeBoxId) (cfg.peerEndpoints excludeBoxId)

/-- The calls that change the endpoints. -/
inductive Call where
  | connect (boxId boxName : String) (aliases : List String)
  | disconnect (boxId : String)
  deriving DecidableEq, Repr

/-- One call: the configuration after it, and what it returned. -/
def NetworkConfig.call (profile : Profile) (cfg : NetworkConfig) :
    Call → NetworkConfig × Except (Fault String) NetworkEndpoint
  | .connect boxId boxName aliases => cfg.connectWithAliases profile boxId boxName aliases
  | .disconnect boxId => cfg.disconnect boxId

/-- The configuration after a sequence of calls. -/
def NetworkConfig.run (profile : Profile) (cfg : NetworkConfig) : List Call → NetworkConfig
  | [] => cfg
  | c :: cs => NetworkConfig.run profile (cfg.call profile c).1 cs

/-! ### Allocation -/

/-- The written subnet is read back as the subnet. -/
theorem Ipam.new_cidr (ipam : Ipam) : Ipam.new ipam.cidr = .ok ipam := by
  obtain ⟨network, prefixLen, gateway, _, hg⟩ := ipam
  have hsplit : (network.toText ++ '/' :: showNat prefixLen).splitOn '/' = [network.toText, showNat prefixLen] := by
    rw [splitOn_append_cons_self_of_not_mem (Ipv4Addr.not_mem_toText rfl (by decide)),
      splitOn_eq_singleton (not_mem_showNat rfl)]
  have hroom : network.toNat + 1 < 2 ^ 32 := hg ▸ gateway.toNat_lt
  have hrange : ¬ (prefixLen = 0 ∨ 30 < prefixLen) := by omega
  have hgw : (⟨network.bits + 1⟩ : Ipv4Addr) = gateway := by
    apply Ipv4Addr.toNat_injective
    have h1 : (1 : UInt32).toNat = 1 := rfl
    rw [hg]
    simp only [Ipv4Addr.toNat, UInt32.toNat_add] at hroom ⊢
    omega
  unfold Ipam.new Ipam.cidr
  simp only [String.toList_ofList, hsplit, Ipv4Addr.parse_toText, parseInt_showNat (show prefixLen ≤ 255 by omega),
    hrange, hroom, dif_pos, dif_neg, not_false_eq_true, hgw]

variable {ip : Ipv4Addr} {ipam : Ipam} {cfg : NetworkConfig}

variable {used : List Ipv4Addr}

theorem scan_some {gateway n candidate} (h : scan gateway used n candidate = some ip) : ip ∉ used ∧ ip ≠ gateway := by
  induction n generalizing candidate with
  | zero => cases h
  | succ _ ih =>
    rw [scan] at h
    split at h
    · next hfree =>
      cases h
      exact ⟨hfree.2, fun e => hfree.1 (congrArg Ipv4Addr.bits e)⟩
    · exact ih h

theorem Ipam.allocate_ok {profile} (h : ipam.allocate profile used = .ok ip) : ip ∉ used ∧ ip ≠ ipam.gateway := by
  unfold Ipam.allocate at h
  split at h
  · cases h
  · simp only at h
    split at h
    · next hs =>
      cases h
      exact scan_some hs
    · cases h

theorem macFromIp_injective {ip'} (h : macFromIp ip = macFromIp ip') : ip = ip' := by
  obtain ⟨ha, hb, hc, hd⟩ := ip.octets_le
  obtain ⟨ha', hb', hc', hd'⟩ := ip'.octets_le
  have hl := String.ofList_injective h
  apply Ipv4Addr.octets_injective
  simp only [hex2, cons_append, append_assoc, append_cancel_left_eq, List.cons.injEq, and_true, true_and] at hl
  obtain ⟨h1, h2, h3, h4, h5, h6, h7, h8⟩ := hl
  exact Prod.ext (hex2_injective ha ha' (cons_eq_cons.mpr ⟨h1, congrArg (fun c => [c]) h2⟩))
    (Prod.ext (hex2_injective hb hb' (cons_eq_cons.mpr ⟨h3, congrArg (fun c => [c]) h4⟩))
      (Prod.ext (hex2_injective hc hc' (cons_eq_cons.mpr ⟨h5, congrArg (fun c => [c]) h6⟩))
        (hex2_injective hd hd' (cons_eq_cons.mpr ⟨h7, congrArg (fun c => [c]) h8⟩))))

/-! ### The endpoints of a network -/

/-- The invariant of a network made for `ipam`. -/
structure Inv (ipam : Ipam) (cfg : NetworkConfig) : Prop where
  /-- The subnet and the gateway stay those of the new network. -/
  subnet : cfg.subnet = ipam.cidr
  gateway : cfg.gateway = ipam.gateway
  /-- Every endpoint is stored under its own box. -/
  boxId : ∀ k e, cfg.endpoints.lookup k = some e → e.boxId = k
  notGateway : ∀ k e, cfg.endpoints.lookup k = some e → e.ipAddress ≠ ipam.gateway
  mac : ∀ k e, cfg.endpoints.lookup k = some e → e.macAddress = macFromIp e.ipAddress
  /-- Different boxes have different addresses. -/
  distinct : ∀ k₁ k₂ e₁ e₂, cfg.endpoints.lookup k₁ = some e₁ → cfg.endpoints.lookup k₂ = some e₂ →
    e₁.ipAddress = e₂.ipAddress → k₁ = k₂

theorem inv_new {name subnet createdAt} (h : NetworkConfig.new name subnet createdAt = .ok cfg) :
    ∃ ipam, Inv ipam cfg := by
  unfold NetworkConfig.new at h
  split at h
  · cases h
  · next ipam _ =>
    cases h
    exact ⟨ipam, rfl, rfl, by simp, by simp, by simp, by simp⟩

variable (hi : Inv ipam cfg)

include hi

variable (profile : Profile)

/-- A call fails and changes nothing, adds an endpoint with a free address for a box that had none, or removes one. -/
theorem call_cases (c : Call) : (∃ e, cfg.call profile c = (cfg, .error e)) ∨
    (∃ e : NetworkEndpoint, e.boxId ∉ cfg.endpoints ∧ e.ipAddress ≠ ipam.gateway ∧
      e.macAddress = macFromIp e.ipAddress ∧
      (∀ k e', cfg.endpoints.lookup k = some e' → e'.ipAddress ≠ e.ipAddress) ∧
      cfg.call profile c = ({ cfg with endpoints := cfg.endpoints.insert e.boxId e }, .ok e)) ∨
    ∃ k e, cfg.call profile c = ({ cfg with endpoints := cfg.endpoints.erase k }, .ok e) := by
  cases c with
  | connect boxId boxName aliases =>
    simp only [NetworkConfig.call, NetworkConfig.connectWithAliases, hi.subnet, Ipam.new_cidr]
    by_cases hmem : boxId ∈ cfg.endpoints
    · simp only [hmem]
      exact Or.inl ⟨_, rfl⟩
    · simp only [hmem]
      cases ha : ipam.allocate profile (cfg.endpoints.entries.map fun e => e.2.ipAddress) with
      | error e => exact Or.inl ⟨e, rfl⟩
      | ok ip =>
        obtain ⟨hfree, hgw⟩ := Ipam.allocate_ok ha
        refine Or.inr (Or.inl ⟨⟨boxId, boxName, aliases.filter fun a => a ≠ "" ∧ a ≠ boxName, ip, macFromIp ip⟩,
          hmem, hgw, rfl, ?_, rfl⟩)
        intro k e' hk hip
        have hent : (⟨k, e'⟩ : (_ : String) × NetworkEndpoint) ∈ cfg.endpoints.entries := AList.mem_lookup_iff.mp hk
        exact hfree (mem_map.mpr ⟨_, hent, hip⟩)
  | disconnect boxId =>
    simp only [NetworkConfig.call, NetworkConfig.disconnect]
    cases cfg.endpoints.lookup boxId with
    | none => exact Or.inl ⟨_, rfl⟩
    | some e => exact Or.inr (Or.inr ⟨boxId, e, rfl⟩)

/-- Adding an endpoint with a free address keeps the invariant. -/
theorem Inv.insert {e} (hgw : e.ipAddress ≠ ipam.gateway) (hmac : e.macAddress = macFromIp e.ipAddress)
    (hfree : ∀ k e', cfg.endpoints.lookup k = some e' → e'.ipAddress ≠ e.ipAddress) :
    Inv ipam { cfg with endpoints := cfg.endpoints.insert e.boxId e } := by
  -- an endpoint found afterwards is the new one or an old one
  refine ⟨hi.subnet, hi.gateway, fun k e' hk => ?_, fun k e' hk => ?_, fun k e' hk => ?_, ?_⟩
  · rcases Totals.lookup_of_insert hk with ⟨rfl, rfl⟩ | ⟨-, hk⟩
    · rfl
    · exact hi.boxId k e' hk
  · rcases Totals.lookup_of_insert hk with ⟨rfl, rfl⟩ | ⟨-, hk⟩
    · exact hgw
    · exact hi.notGateway k e' hk
  · rcases Totals.lookup_of_insert hk with ⟨rfl, rfl⟩ | ⟨-, hk⟩
    · exact hmac
    · exact hi.mac k e' hk
  · intro k₁ k₂ e₁ e₂ h₁ h₂ hip
    rcases Totals.lookup_of_insert h₁ with ⟨rfl, rfl⟩ | ⟨-, h₁⟩ <;>
      rcases Totals.lookup_of_insert h₂ with ⟨rfl, rfl⟩ | ⟨-, h₂⟩
    · rfl
    · exact absurd hip.symm (hfree k₂ e₂ h₂)
    · exact absurd hip (hfree k₁ e₁ h₁)
    · exact hi.distinct k₁ k₂ e₁ e₂ h₁ h₂ hip

theorem Inv.erase (b : String) : Inv ipam { cfg with endpoints := cfg.endpoints.erase b } := by
  have hlook : ∀ k e, (cfg.endpoints.erase b).lookup k = some e → cfg.endpoints.lookup k = some e := fun _ _ =>
    Totals.lookup_of_erase
  exact ⟨hi.subnet, hi.gateway, fun k e hk => hi.boxId k e (hlook k e hk),
    fun k e hk => hi.notGateway k e (hlook k e hk), fun k e hk => hi.mac k e (hlook k e hk),
    fun k₁ k₂ e₁ e₂ h₁ h₂ => hi.distinct k₁ k₂ e₁ e₂ (hlook k₁ e₁ h₁) (hlook k₂ e₂ h₂)⟩

theorem Inv.call (c : Call) : Inv ipam (cfg.call profile c).1 := by
  rcases call_cases hi profile c with ⟨_, h⟩ | ⟨_, -, hgw, hmac, hfree, h⟩ | ⟨k, _, h⟩
  · rw [h]
    exact hi
  · rw [h]
    exact hi.insert hgw hmac hfree
  · rw [h]
    exact hi.erase k

theorem Inv.run (cs : List Call) : Inv ipam (cfg.run profile cs) := by
  induction cs generalizing cfg with
  | nil => exact hi
  | cons c _ ih => exact ih (hi.call profile c)

omit hi

/-- **The endpoints of a network.** After any calls on a new network no two endpoints share an address or a MAC address,
each is stored under its own box and none has the address of the gateway; and a call that does not succeed changes
nothing. -/
theorem network_endpoints_distinct {name subnet createdAt : String} {cfg₀ : NetworkConfig}
    (h : NetworkConfig.new name subnet createdAt = .ok cfg₀) (profile : Profile) (cs : List Call) :
    (∀ k₁ k₂ e₁ e₂, (cfg₀.run profile cs).endpoints.lookup k₁ = some e₁ →
      (cfg₀.run profile cs).endpoints.lookup k₂ = some e₂ → k₁ ≠ k₂ →
      e₁.ipAddress ≠ e₂.ipAddress ∧ e₁.macAddress ≠ e₂.macAddress) ∧
    (∀ k e, (cfg₀.run profile cs).endpoints.lookup k = some e →
      e.boxId = k ∧ e.ipAddress ≠ (cfg₀.run profile cs).gateway) ∧
    ∀ c e, ((cfg₀.run profile cs).call profile c).2 = .error e →
      ((cfg₀.run profile cs).call profile c).1 = cfg₀.run profile cs := by
  obtain ⟨_, h₀⟩ := inv_new h
  have hi := h₀.run profile cs
  refine ⟨fun k₁ k₂ e₁ e₂ h₁ h₂ hne => ⟨?_, ?_⟩, fun k e hk => ⟨hi.boxId k e hk, ?_⟩, fun c e he => ?_⟩
  · exact fun hip => hne (hi.distinct k₁ k₂ e₁ e₂ h₁ h₂ hip)
  · intro hmac
    rw [hi.mac k₁ e₁ h₁, hi.mac k₂ e₂ h₂] at hmac
    exact hne (hi.distinct k₁ k₂ e₁ e₂ h₁ h₂ (macFromIp_injective hmac))
  · rw [hi.gateway]
    exact hi.notGateway k e hk
  · rcases call_cases hi profile c with ⟨_, h'⟩ | ⟨_, -, -, -, -, h'⟩ | ⟨_, _, h'⟩
    · rw [h']
    · rw [h'] at he
      cases he
    · rw [h'] at he
      cases he

/-- A network on the subnet `10.88.0.0/24`. -/
def bridgeConfig : NetworkConfig :=
  ⟨"net", "10.88.0.0/24", ⟨0x0A580001⟩, "bridge", ∅, ∅, "2024-01-01T00:00:00Z", .default⟩

theorem new_bridgeConfig : NetworkConfig.new "net" "10.88.0.0/24" "2024-01-01T00:00:00Z" = .ok bridgeConfig := by
  rfl

/-- On that network, when two boxes have connected, every endpoint is stored under its own box. -/
theorem network_endpoints_distinct_bridge :
    NetworkConfig.new "net" "10.88.0.0/24" "2024-01-01T00:00:00Z" = .ok bridgeConfig ∧
      ∀ k e, (bridgeConfig.run .debug [.connect "a" "web" [], .connect "b" "db" []]).endpoints.lookup k = some e →
        e.boxId = k ∧
          e.ipAddress ≠ (bridgeConfig.run .debug [.connect "a" "web" [], .connect "b" "db" []]).gateway :=
  ⟨new_bridgeConfig,
    (network_endpoints_distinct new_bridgeConfig .debug [.connect "a" "web" [], .connect "b" "db" []]).2.1⟩

/-! ### Peers -/

/-- Every other box whose name is denied to a box is as `hidden` says. -/
def NetworkConfig.Denied (cfg : NetworkConfig) (boxId : String) (hidden : NetworkEndpoint → Prop) : Prop :=
  ∀ k peer, cfg.endpoints.lookup k = some peer → peer.boxId ≠ boxId →
    cfg.policy.isPeerAllowed (cfg.boxName boxId) peer.boxName = false → hidden peer

/-- **Which peers are hidden.** A box finds no entry of the peers that are denied to it exactly if each of their aliases
is denied as well: an entry is kept or dropped by its name. -/
theorem denied_peers_hidden_iff (cfg : NetworkConfig) (boxId : String) :
    cfg.Denied boxId (fun peer => ∀ name ∈ peer.boxName :: peer.aliases,
        (String.ofList peer.ipAddress.toText, name) ∉ cfg.allowedPeerEndpoints boxId) ↔
      cfg.Denied boxId fun peer => ∀ other ∈ peer.aliases,
        cfg.policy.isPeerAllowed (cfg.boxName boxId) other = false := by
  refine forall₅_congr fun k peer hpeer hother hdenied => ?_
  have hentry : ∀ name ∈ peer.boxName :: peer.aliases,
      (String.ofList peer.ipAddress.toText, name) ∈ cfg.peerEndpoints boxId := by
    intro name hname
    refine mem_flatMap.mpr ⟨peer, mem_filter.mpr ⟨?_, decide_eq_true hother⟩, mem_map_of_mem hname⟩
    exact mem_map_of_mem (AList.mem_lookup_iff.mp hpeer)
  have hhidden : ∀ name ∈ peer.boxName :: peer.aliases,
      ((String.ofList peer.ipAddress.toText, name) ∉ cfg.allowedPeerEndpoints boxId ↔
        cfg.policy.isPeerAllowed (cfg.boxName boxId) name = false) := by
    intro name hname
    simp [NetworkConfig.allowedPeerEndpoints, NetworkPolicy.allowedPeers, hentry name hname]
  dsimp only
  rw [forall₂_congr hhidden, forall_mem_cons]
  exact and_iff_right hdenied

/-- A network on which `web` may send to everyone but `db`, which is also known as `postgres`. -/
def guardedConfig : NetworkConfig :=
  { bridgeConfig with
    endpoints := .insert "b" ⟨"b", "db", ["postgres"], ⟨0x0A580003⟩, ""⟩
      (.insert "a" ⟨"a", "web", [], ⟨0x0A580002⟩, ""⟩ ∅)
    policy := ⟨.custom, [], [⟨"web", "db", [], "", .deny⟩, ⟨"*", "*", [], "", .allow⟩]⟩ }

theorem denied_peer_under_alias : ¬ guardedConfig.Denied "a" fun peer => ∀ name ∈ peer.boxName :: peer.aliases,
      (String.ofList peer.ipAddress.toText, name) ∉ guardedConfig.allowedPeerEndpoints "a" := by
  intro h
  exact h "b" _ rfl (by decide) (by decide) "postgres" (by decide) (by decide)

end A3sBox.Network
