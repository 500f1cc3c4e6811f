import A3sBox.NetProxy.Engine

/-!
# What the port-forwarding proxy relays

`bytes_relayed`: if every write and send takes what it is given, and a connection that ends has nothing left in its
buffers, then the host client gets what the guest has sent, in order, and all of it once a connection that the guest
has closed is dropped; and the guest gets what was read from the client. `bytes_dropped` are runs in which bytes are
lost.

What is known of one connection is carried through a turn phase by phase (`between_turn`): a loop over some
connections leaves the sockets of others as they are.
-/

namespace A3sBox.NetProxy

open Slots List ProxyEngine Option

/-! ### One connection -/

/-- What was taken from the guest has been written to the host client, and what was read from the client has been
delivered or waits in the send buffer. -/
structure Relayed (s : Socket) (stream : TcpStream) : Prop where
  received : stream.received = s.taken
  read : stream.read = s.delivered ++ s.tx
  /-- Everything the guest has sent is here when it has closed. -/
  fin : s.rxFinReceived = true → s.onTheWay = []

/-- What is known of a connection that is being opened. -/
structure Waiting (s : Socket) (stream : TcpStream) : Prop extends Relayed s stream where
  taken : s.taken = []
  none_read : stream.read = []

/-- What is known of a connection that was dropped. -/
structure Done (s : Socket) (stream : TcpStream) : Prop where
  /-- The host client has got the beginning of what the guest has sent. -/
  received : stream.received <+: s.sent
  /-- It has got all of it if the guest has closed its side. -/
  all : s.rxFinReceived = true → stream.received = s.sent
  /-- The guest has got what was read from the host client. -/
  read : s.delivered = stream.read

theorem writeAll_of_absorbs {writes data} (h : Absorbs writes data) : writeAll writes data = data := by
  induction writes generalizing data with
  | nil =>
    have hlen : data.length ≤ 0 := h.2
    rw [length_eq_zero_iff.mp (Nat.le_zero.mp hlen)]
    rfl
  | cons w writes ih =>
    obtain ⟨hgood, hlen⟩ := h
    have hrest : ∀ w ∈ writes, w ≠ .error ∧ w ≠ .ok 0 := fun w hw => hgood w (mem_cons_of_mem _ hw)
    obtain ⟨herror, hzero⟩ := hgood w mem_cons_self
    rw [map_cons, sum_cons] at hlen
    by_cases hdata : data = []
    · cases w <;> simp [writeAll, hdata]
    · cases w with
      | ok n =>
        cases n with
        | zero => exact absurd rfl hzero
        | succ n =>
          have habsorbs : Absorbs writes (data.drop (n + 1)) := by
            refine ⟨hrest, ?_⟩
            rw [length_drop]
            simp only [WriteResult.count] at hlen
            omega
          rw [writeAll, if_neg hdata, ih habsorbs, take_append_drop]
      | interrupted =>
        rw [writeAll, if_neg hdata]
        exact ih ⟨hrest, by simpa [WriteResult.count] using hlen⟩
      | error => exact absurd rfl herror

variable {s : Socket} {stream : TcpStream} {p : Polled} {io : Io} {pending active : List (ℕ × TcpStream)}
  {dropped : List (Socket × TcpStream)}

section

variable (h : Relayed s stream)

include h

theorem relayed_poll (hvalid : p.Valid s) : Relayed (s.poll p) stream := by
  refine ⟨h.received, ?_, hvalid.2.1⟩
  show stream.read = (s.delivered ++ s.tx.take p.delivers) ++ s.tx.drop p.delivers
  rw [append_assoc, take_append_drop]
  exact h.read

omit h in
theorem waiting_poll (h : Waiting s stream) (hvalid : p.Valid s) : Waiting (s.poll p) stream :=
  { relayed_poll h.toRelayed hvalid with taken := h.taken, none_read := h.none_read }

theorem relayed_guestToHost (htakes : Absorbs io.writes (s.rx.take io.contiguous)) :
    Relayed (guestToHost io s stream).1 (guestToHost io s stream).2 := by
  unfold guestToHost
  split_ifs
  · refine ⟨?_, h.read, h.fin⟩
    show stream.received ++ writeAll io.writes (s.rx.take io.contiguous) = s.taken ++ s.rx.take io.contiguous
    rw [writeAll_of_absorbs htakes, h.received]
  · exact h

theorem relayed_close : Relayed s.close stream := by
  unfold Socket.close
  split <;> exact ⟨h.received, h.read, h.fin⟩

theorem relayed_hostToGuest (htakes : ∀ bytes, io.read = .ok bytes → (bytes.take 8192).length ≤ io.accepts) :
    Relayed (hostToGuest io s stream).1 (hostToGuest io s stream).2 := by
  unfold hostToGuest
  split_ifs
  · cases hread : io.read with
    | ok bytes =>
      simp only
      split_ifs
      · exact relayed_close h
      · refine ⟨h.received, ?_, h.fin⟩
        show stream.read ++ bytes.take 8192 = s.delivered ++ (s.tx ++ (bytes.take 8192).take io.accepts)
        rw [take_of_length_le (htakes bytes hread), h.read, append_assoc]
    | wouldBlock => exact h
    | error => exact relayed_close h
  · exact h

end

theorem guestToHost_rx (io) (s) (stream) : (guestToHost io s stream).1 =
      { s with rx := s.rx.drop io.contiguous, taken := s.taken ++ s.rx.take io.contiguous } := by
  unfold guestToHost Socket.canRecv
  cases hrx : s.rx with
  | nil =>
    obtain ⟨⟩ := s
    cases hrx
    simp
  | cons => simp

theorem ended_close (h : s.maySend = true) : s.close.ended = false := by
  cases hstate : s.state <;> simp_all [Socket.maySend, Socket.close, Socket.ended]

/-- A socket that has ended after data of the host client was moved had ended before; either nothing was moved, or the
guest had closed its side and bytes were read for it. -/
theorem ended_hostToGuest (h : (hostToGuest io s stream).1.ended = true) : s.ended = true ∧
      ((hostToGuest io s stream).1 = s ∧ (s.state = .closeWait → io.full = false → io.read = .wouldBlock) ∨
        s.state = .closeWait ∧ io.full = false ∧ ∃ bytes, bytes ≠ [] ∧ io.read = .ok bytes) := by
  unfold hostToGuest at h ⊢
  split_ifs at h ⊢ with hcan
  · simp only [Bool.and_eq_true, Bool.not_eq_true'] at hcan
    obtain ⟨hmay, hfull⟩ := hcan
    have hclose : s.close.ended ≠ true := by simp [ended_close hmay]
    cases hread : io.read with
    | ok bytes =>
      rw [hread] at h
      simp only at h
      split_ifs at h with hdata
      · exact absurd h hclose
      · have hwait : s.state = .closeWait := by
          simp only [Socket.maySend, Socket.ended] at hmay h
          cases hs : s.state <;> simp_all
        refine ⟨h, .inr ⟨hwait, hfull, bytes, ?_, rfl⟩⟩
        rintro rfl
        exact hdata rfl
    | wouldBlock =>
      rw [hread] at h
      exact ⟨h, .inl ⟨rfl, fun _ _ => rfl⟩⟩
    | error =>
      rw [hread] at h
      exact absurd h hclose
  · refine ⟨h, .inl ⟨rfl, fun hwait hfull => ?_⟩⟩
    simp [Socket.maySend, hwait, hfull] at hcan

/-- When a connection is about to be dropped after its data was moved, nothing is left in it. -/
theorem empty_of_ended (hdrained : s.ended = true → Drained io s)
    (hended : (proxyConnection io s stream).1.ended = true) :
    (proxyConnection io s stream).1.tx = [] ∧
      ((proxyConnection io s stream).1.rxFinReceived = true → (proxyConnection io s stream).1.rx = []) := by
  have hrx := guestToHost_rx io s stream
  have hstate : (guestToHost io s stream).1.state = s.state := by rw [hrx]
  simp only [proxyConnection] at hended ⊢
  obtain ⟨hends, hcases⟩ := ended_hostToGuest hended
  have hdrained := hdrained (by simpa only [Socket.ended, hstate] using hends)
  rw [hstate] at hcases
  rcases hcases with ⟨hsame, hblock⟩ | ⟨hwait, hfull, _, hne, hread⟩
  · rw [hsame, hrx]
    rcases hdrained with ⟨hwait, hfull, hcloses⟩ | ⟨hlen, htx, -⟩
    · rw [hblock hwait hfull] at hcloses
      cases hcloses <;> contradiction
    · exact ⟨htx, fun hfin => drop_eq_nil_of_le (hlen hfin)⟩
  · rcases hdrained with ⟨-, -, hnil | herror⟩ | ⟨-, -, hblock⟩
    · exact absurd (ReadResult.ok.inj (hread.symm.trans hnil)) hne
    · cases hread.symm.trans herror
    · cases hread.symm.trans (hblock hwait hfull)

/-! ### The engine -/

/-- How many connections of a forwarded port hold a handle. -/
def PortForward.holds (pf : PortForward) (i : ℕ) : ℕ := holders pf.pending i + holders pf.active i

/-- The connections of a forwarded port have sockets, and are as they should be. -/
def PortForward.Keeps (waiting open' : ℕ → Socket → TcpStream → Prop) (sockets : Table Socket) (pf : PortForward) :
    Prop :=
  Owned sockets waiting pf.pending ∧ Owned sockets open' pf.active

/-- No two connections hold the same handle, and they are as they should be; also those that were dropped. -/
structure Keeps (waiting open' : ℕ → Socket → TcpStream → Prop) (gone : Socket → TcpStream → Prop)
    (engine : ProxyEngine) : Prop where
  /-- No two connections hold the same handle. -/
  apart : ∀ i, held PortForward.holds engine.portForwards i ≤ 1
  connections : ∀ pf ∈ engine.portForwards, pf.Keeps waiting open' engine.sockets
  dropped : ∀ c ∈ engine.dropped, gone c.1 c.2

variable {a : Accepted} {i : ℕ} {polled : ℕ → Polled} {turn : Turn} {ok : ProxyEngine → Turn → Prop}

section Engine

variable {waiting waiting' open' open'' : ℕ → Socket → TcpStream → Prop} {gone : Socket → TcpStream → Prop}
variable {engine : ProxyEngine}

theorem keeps_frame (table table' : Table Socket) (pf : PortForward) (h : pf.Keeps waiting open' table)
    (hsame : ∀ i, 0 < pf.holds i → table' i = table i) : pf.Keeps waiting open' table' :=
  ⟨h.1.frame fun i hi => hsame i (Nat.add_pos_left hi _), h.2.frame fun i hi => hsame i (Nat.add_pos_right _ hi)⟩

variable (h : Keeps waiting open' gone engine)

include h

theorem keeps_forEach {visit}
    (hvisit : ∀ table pf, (∀ i, pf.holds i ≤ 1) → pf.Keeps waiting open' table → ∃ r, visit table pf = some r ∧
      VisitSpec PortForward.holds (fun table pf => pf.Keeps waiting' open'' table) (fun c => gone c.1 c.2) table pf r) :
    ∃ engine', engine.forEach visit = some engine' ∧ Keeps waiting' open'' gone engine' := by
  obtain ⟨⟨_, _, _⟩, hall, hle, -, hpost, hgone⟩ := visitAll_spec keeps_frame keeps_frame hvisit h.apart h.connections
  refine ⟨_, by simp only [forEach, hall]; rfl, fun i => (hle i).trans (h.apart i), hpost, ?_⟩
  exact forall_mem_append.mpr ⟨h.dropped, hgone⟩

theorem keeps_promoteEstablished (hstay : ∀ i s stream, waiting i s stream → s.ended = false → waiting' i s stream)
    (hmove : ∀ i s stream, waiting i s stream → s.state = .established → open' i s stream)
    (hgo : ∀ i s stream, waiting i s stream → s.ended = true → gone s stream) :
    ∃ engine', engine.promoteEstablished = some engine' ∧ Keeps waiting' open' gone engine' := by
  refine keeps_forEach h fun table pf hapart hkeeps => ?_
  have hspec : ∃ r, sweep promotion table pf.pending = some r ∧
      SweepSpec table pf.pending waiting' open' gone r := by
    refine sweep_spec ?_ ?_ ?_ (fun i => by have := hapart i; simp only [PortForward.holds] at this; omega) hkeeps.1
    · intro i s stream s' stream' hgood hfate
      unfold promotion at hfate
      split at hfate <;> cases hfate
      exact hstay i s stream hgood (by simp_all [Socket.ended])
    · intro i s stream s' stream' hgood hfate
      unfold promotion at hfate
      split at hfate <;> cases hfate
      exact hmove i s stream hgood (by assumption)
    · intro i s stream hgood hfate
      unfold promotion at hfate
      split at hfate <;> cases hfate
      all_goals exact hgo i s stream hgood (by simp_all [Socket.ended])
  obtain ⟨_, hsweep, hr⟩ := hspec
  refine ⟨_, by rw [hsweep]; rfl, fun i => ?_, fun i hi => ?_, ⟨hr.stayed, Owned.append ?_ hr.moved⟩, hr.gone⟩
  · have := hr.holders_le i
    simp only [PortForward.holds, holders_append]
    omega
  · exact hr.frame i (by simp [PortForward.holds] at hi; omega)
  · apply hkeeps.2.frame
    intro i hi
    exact hr.frame i (by have := hapart i; simp only [PortForward.holds] at this; omega)

/-- A loop over the open connections, which moves none of them on. -/
theorem keeps_sweep {fate}
    (hstay : ∀ i s stream s' stream', open' i s stream → fate i s stream = .stays s' stream' → open'' i s' stream')
    (hmove : ∀ i s stream s' stream', fate i s stream ≠ .moves s' stream')
    (hgo : ∀ i s stream, open' i s stream → fate i s stream = .goes → gone s stream) :
    ∃ engine', engine.forEach (fun sockets pf => (sweep fate sockets pf.active).map fun r =>
      (r.table, { pf with active := r.stayed }, r.gone)) = some engine' ∧ Keeps waiting open'' gone engine' := by
  refine keeps_forEach h fun table pf hapart hkeeps => ?_
  have hspec : ∃ r, sweep fate table pf.active = some r ∧ SweepSpec table pf.active open'' open'' gone r := by
    refine sweep_spec hstay (fun i s stream s' stream' _ hfate => absurd hfate (hmove i s stream s' stream')) hgo
      (fun i => by have := hapart i; simp only [PortForward.holds] at this; omega) hkeeps.2
  obtain ⟨_, hsweep, hr⟩ := hspec
  refine ⟨_, by rw [hsweep]; rfl, fun i => ?_, fun i hi => ?_, ⟨?_, hr.stayed⟩, hr.gone⟩
  · have := hr.holders_le i
    simp only [PortForward.holds]
    omega
  · exact hr.frame i (by simp [PortForward.holds] at hi; omega)
  · apply hkeeps.1.frame
    intro i hi
    exact hr.frame i (by have := hapart i; simp only [PortForward.holds] at this; omega)

theorem keeps_proxyData {io} (hproxy : ∀ i s stream, open' i s stream →
      open'' i (proxyConnection (io i) s stream).1 (proxyConnection (io i) s stream).2) :
    ∃ engine', engine.proxyData io = some engine' ∧ Keeps waiting open'' gone engine' := by
  refine keeps_sweep h ?_ (fun _ _ _ _ _ hfate => nomatch hfate) (fun _ _ _ _ hfate => nomatch hfate)
  intro i s stream s' stream' hopen hfate
  cases hfate
  exact hproxy i s stream hopen

theorem keeps_cleanup (hstay : ∀ i s stream, open' i s stream → s.ended = false → open'' i s stream)
    (hgo : ∀ i s stream, open' i s stream → s.ended = true → gone s stream) :
    ∃ engine', engine.cleanup = some engine' ∧ Keeps waiting open'' gone engine' := by
  refine keeps_sweep h ?_ ?_ ?_
  · intro i s stream s' stream' hopen hfate
    split at hfate <;> cases hfate
    exact hstay i s stream hopen (by simp_all)
  · intro i s stream s' stream' hfate
    split at hfate <;> cases hfate
  · intro i s stream hopen hfate
    split at hfate <;> cases hfate
    exact hgo i s stream hopen (by assumption)

/-- A socket as it is made. -/
structure Fresh (s : Socket) : Prop where
  /-- Nothing has come from the guest, and nothing is to come. -/
  sent : s.taken = [] ∧ s.rx = [] ∧ s.onTheWay = []
  delivered : s.delivered = [] ∧ s.tx = []

omit h in
theorem acceptConnection_sockets (h : i ≠ a.handle) : (engine.acceptConnection a).sockets i = engine.sockets i := by
  unfold acceptConnection
  split
  · rfl
  · exact Function.update_of_ne h _ _

theorem keeps_acceptConnection (hfree : engine.sockets a.handle = none)
    (hnew : ∀ s, Fresh s → waiting a.handle s ⟨[], []⟩) : Keeps waiting open' gone (engine.acceptConnection a) := by
  -- no connection holds the handle, since its socket would be there
  have hholds : ∀ pf ∈ engine.portForwards, pf.holds a.handle = 0 := by
    intro pf hpf
    by_contra hne
    obtain ⟨hpending, hactive⟩ := h.connections pf hpf
    have hmem : a.handle ∈ (pf.pending ++ pf.active).map Prod.fst := by
      rw [← count_pos_iff, ← holders, holders_append]
      exact Nat.pos_of_ne_zero hne
    obtain ⟨e, he, heq⟩ := mem_map.mp hmem
    cases mem_append.mp he with
    | inl hmem =>
      obtain ⟨_, hs, -⟩ := hpending e hmem
      rw [heq, hfree] at hs
      cases hs
    | inr hmem =>
      obtain ⟨_, hs, -⟩ := hactive e hmem
      rw [heq, hfree] at hs
      cases hs
  have hsame : ∀ pf ∈ engine.portForwards, pf.Keeps waiting open' (engine.acceptConnection a).sockets := by
    intro pf hpf
    refine keeps_frame _ _ pf (h.connections pf hpf) fun i hi => acceptConnection_sockets ?_
    rintro rfl
    rw [hholds pf hpf] at hi
    cases hi
  have hheld : held PortForward.holds engine.portForwards a.handle = 0 := held_eq_zero hholds
  unfold acceptConnection at hsame ⊢
  cases hpf : engine.portForwards[a.forward]? with
  | none => exact h
  | some pf =>
    rw [hpf] at hsame
    have hmem : pf ∈ engine.portForwards := mem_of_getElem? hpf
    refine ⟨fun i => ?_, fun pf₁ hpf₁ => ?_, h.dropped⟩
    · have hmore : PortForward.holds { pf with pending := pf.pending ++ [(a.handle, ⟨[], []⟩)] } i =
          pf.holds i + if a.handle = i then 1 else 0 := by
        simp only [PortForward.holds, holders_append, holders_cons, holders_nil]
        omega
      have hapart := h.apart i
      show held PortForward.holds (engine.portForwards.set a.forward _) i ≤ 1
      rw [held_set hmore hpf]
      split_ifs with hi
      · rw [← hi, hheld]
      · exact hapart
    · cases mem_or_eq_of_mem_set hpf₁ with
      | inl hbefore => exact hsame pf₁ hbefore
      | inr heq =>
        rw [heq]
        refine ⟨(hsame pf hmem).1.append ?_, (hsame pf hmem).2⟩
        exact .cons (Function.update_self _ _ _) (hnew _ ⟨⟨rfl, rfl, rfl⟩, rfl, rfl⟩) (forall_mem_nil _)

theorem keeps_acceptConnections {accepted} (hapart : (accepted.map Accepted.handle).Nodup)
    (hfree : ∀ a ∈ accepted, engine.sockets a.handle = none) (hnew : ∀ i s, Fresh s → waiting i s ⟨[], []⟩) :
    Keeps waiting open' gone (engine.acceptConnections accepted) := by
  induction accepted generalizing engine with
  | nil => exact h
  | cons a _ ih =>
    rw [map_cons, nodup_cons] at hapart
    refine ih (keeps_acceptConnection h (hfree a mem_cons_self) (hnew _)) hapart.2 fun b hb => ?_
    rw [acceptConnection_sockets]
    · exact hfree b (mem_cons_of_mem _ hb)
    · rintro heq
      exact hapart.1 (heq ▸ mem_map_of_mem hb)

omit h in
theorem owned_poll {good good' : ℕ → Socket → TcpStream → Prop} {entries : List (ℕ × TcpStream)}
    (hgood : ∀ i s stream, (i, stream) ∈ entries → engine.sockets i = some s → good i s stream →
      good' i (s.poll (polled i)) stream) (h : Owned engine.sockets good entries) :
    Owned (engine.poll polled).sockets good' entries := by
  intro e he
  obtain ⟨s, hs, hstream⟩ := h e he
  exact ⟨s.poll (polled e.1), by simp only [poll, hs, map_some], hgood e.1 s e.2 he hs hstream⟩

theorem keeps_poll
    (hwaiting : ∀ pf ∈ engine.portForwards, ∀ i s stream, (i, stream) ∈ pf.pending → engine.sockets i = some s →
      waiting i s stream → waiting' i (s.poll (polled i)) stream)
    (hopen : ∀ pf ∈ engine.portForwards, ∀ i s stream, (i, stream) ∈ pf.active → engine.sockets i = some s →
      open' i s stream → open'' i (s.poll (polled i)) stream) :
    Keeps waiting' open'' gone (engine.poll polled) :=
  ⟨h.apart, fun pf hpf => ⟨owned_poll (hwaiting pf hpf) (h.connections pf hpf).1,
    owned_poll (hopen pf hpf) (h.connections pf hpf).2⟩, h.dropped⟩

omit h in
/-- The second half of a turn: connections are promoted, moved and dropped. -/
theorem keeps_turn (moved : ℕ → Socket → TcpStream → Prop) {closed}
    (hstay : ∀ i s stream, waiting i s stream → s.ended = false → waiting' i s stream)
    (hmove : ∀ i s stream, waiting i s stream → s.state = .established → open' i s stream)
    (hgo : ∀ i s stream, waiting i s stream → s.ended = true → gone s stream)
    (hproxy : ∀ i s stream, open' i s stream →
      moved i (proxyConnection (turn.io i) s stream).1 (proxyConnection (turn.io i) s stream).2)
    (hopen : ∀ i s stream, moved i s stream → s.ended = false → closed i s stream)
    (hclose : ∀ i s stream, moved i s stream → s.ended = true → gone s stream)
    (h : Keeps waiting open' gone (engine.exchange turn)) :
    ∃ engine', engine.turn turn = some engine' ∧ Keeps waiting' closed gone engine' := by
  obtain ⟨_, h₁, hkeeps₁⟩ := keeps_promoteEstablished h hstay hmove hgo
  obtain ⟨_, h₂, hkeeps₂⟩ := keeps_proxyData hkeeps₁ hproxy
  obtain ⟨e₃, h₃, hkeeps₃⟩ := keeps_cleanup hkeeps₂ hopen hclose
  exact ⟨e₃, by simp only [ProxyEngine.turn, h₁, h₂, h₃, bind_eq_bind, bind_some], hkeeps₃⟩

end Engine

/-! ### Whole runs -/

variable {engine : ProxyEngine}

/-- Whatever a turn meets, every socket that is looked for is there. -/
theorem turn_some (hpossible : Possible engine turn) {waiting open' gone} (h : Keeps waiting open' gone engine) :
    ∃ engine', engine.turn turn = some engine' := by
  have hany : Keeps (fun _ _ _ => True) (fun _ _ _ => True) (fun _ _ => True) engine :=
    ⟨h.apart, fun pf hpf => ⟨(h.connections pf hpf).1.mono fun _ _ _ _ _ _ => trivial,
      (h.connections pf hpf).2.mono fun _ _ _ _ _ _ => trivial⟩, fun _ _ => trivial⟩
  have haccepted := keeps_acceptConnections hany hpossible.apart hpossible.free fun _ _ _ => trivial
  have hpolled : Keeps (fun _ _ _ => True) (fun _ _ _ => True) (fun _ _ => True) (engine.exchange turn) :=
    keeps_poll haccepted (fun _ _ _ _ _ _ _ _ => trivial) fun _ _ _ _ _ _ _ _ => trivial
  obtain ⟨engine', hturn, -⟩ : ∃ engine', engine.turn turn = some engine' ∧
      Keeps (fun _ _ _ => True) (fun _ _ _ => True) (fun _ _ => True) engine' :=
    keeps_turn (fun _ _ _ => True) (fun _ _ _ _ _ => trivial) (fun _ _ _ _ _ => trivial) (fun _ _ _ _ _ => trivial)
      (fun _ _ _ _ => trivial) (fun _ _ _ _ _ => trivial) (fun _ _ _ _ _ => trivial) hpolled
  exact ⟨engine', hturn⟩

/-- The connections between two turns: what they have carried is right, and none has ended. -/
abbrev Between (engine : ProxyEngine) : Prop :=
  Keeps (fun _ s stream => Waiting s stream ∧ s.ended = false) (fun _ s stream => Relayed s stream ∧ s.ended = false)
    Done engine

theorem Relayed.received_sent (h : Relayed s stream) : stream.received <+: s.sent := by
  rw [h.received, Socket.sent, append_assoc]
  exact prefix_append _ _

theorem Relayed.done (h : Relayed s stream) (htx : s.tx = []) (hrx : s.rxFinReceived = true → s.rx = []) :
    Done s stream := by
  refine ⟨h.received_sent, fun hfin => ?_, ?_⟩
  · rw [h.received, Socket.sent, hrx hfin, h.fin hfin, append_nil, append_nil]
  · rw [h.read, htx, append_nil]

theorem Waiting.tx (h : Waiting s stream) : s.tx = [] := by
  have hread := h.read
  rw [h.none_read] at hread
  exact (append_eq_nil_iff.mp hread.symm).2

theorem between_turn {engine'} (hpossible : Possible engine turn) (hcareful : Careful engine turn)
    (hturn : engine.turn turn = some engine') (h : Between engine) : Between engine' := by
  have hbefore : Keeps (fun _ => Waiting) (fun _ => Relayed) Done engine :=
    ⟨h.apart, fun pf hpf => ⟨(h.connections pf hpf).1.mono fun _ _ _ _ _ hw => hw.1,
      (h.connections pf hpf).2.mono fun _ _ _ _ _ ho => ho.1⟩, h.dropped⟩
  have haccepted : Keeps (fun _ => Waiting) (fun _ => Relayed) Done (engine.acceptConnections turn.accepted) := by
    refine keeps_acceptConnections hbefore hpossible.apart hpossible.free fun i s hfresh => ?_
    exact ⟨⟨hfresh.sent.1.symm, by rw [hfresh.delivered.1, hfresh.delivered.2]; rfl, fun _ => hfresh.sent.2.2⟩,
      hfresh.sent.1, rfl⟩
  have hpolled : Keeps
      (fun i s stream => Waiting s stream ∧ Takes (turn.io i) s ∧ (s.ended = true → s.rxFinReceived = true → s.rx = []))
      (fun i s stream => Relayed s stream ∧ Takes (turn.io i) s ∧ (s.ended = true → Drained (turn.io i) s))
      Done (engine.exchange turn) := by
    have hsocket : ∀ i s, (engine.acceptConnections turn.accepted).sockets i = some s →
        (engine.exchange turn).sockets i = some (s.poll (turn.polled i)) := by
      intro i s hs
      simp [exchange, poll, hs]
    refine keeps_poll haccepted (fun pf hpf i s stream hmem hs hw => ?_) fun pf hpf i s stream hmem hs ho => ?_
    · exact ⟨waiting_poll hw (hpossible.valid i s hs), hcareful.takes i _ (hsocket i s hs),
        hcareful.pending pf hpf _ hmem _ (hsocket i s hs)⟩
    · exact ⟨relayed_poll ho (hpossible.valid i s hs), hcareful.takes i _ (hsocket i s hs),
        hcareful.active pf hpf _ hmem _ (hsocket i s hs)⟩
  have hnext : ∃ e, engine.turn turn = some e ∧ Between e := by
    refine keeps_turn
      (fun _ s stream => Relayed s stream ∧ (s.ended = true → s.tx = [] ∧ (s.rxFinReceived = true → s.rx = [])))
      ?_ ?_ ?_ (fun i s stream ho => ⟨?_, empty_of_ended ho.2.2⟩) ?_ ?_ hpolled
    · exact fun i s stream hw hended => ⟨hw.1, hended⟩
    · intro i s stream hw hstate
      exact ⟨hw.1.toRelayed, hw.2.1, fun hended => by simp [Socket.ended, hstate] at hended⟩
    · exact fun i s stream hw hended => hw.1.toRelayed.done hw.1.tx (hw.2.2 hended)
    · exact relayed_hostToGuest (relayed_guestToHost ho.1 ho.2.1.1) ho.2.1.2
    · exact fun i s stream ho hended => ⟨ho.1, hended⟩
    · exact fun i s stream ho hended => ho.1.done (ho.2 hended).1 (ho.2 hended).2
  obtain ⟨_, hsome, hkeeps⟩ := hnext
  rw [hsome] at hturn
  cases hturn
  exact hkeeps

theorem between_new (portForwards : List (Ipv4Addr × UInt16)) : Between (.new portForwards) := by
  have hempty : ∀ pf ∈ (new portForwards).portForwards, pf.pending = [] ∧ pf.active = [] := by
    intro pf hpf
    obtain ⟨_, -, rfl⟩ := mem_map.mp hpf
    exact ⟨rfl, rfl⟩
  refine ⟨fun i => ?_, fun pf hpf => ?_, forall_mem_nil _⟩
  · rw [held_eq_zero fun pf hpf => by simp [PortForward.holds, hempty pf hpf]]
    exact Nat.zero_le _
  · obtain ⟨hpending, hactive⟩ := hempty pf hpf
    unfold PortForward.Keeps
    rw [hpending, hactive]
    exact ⟨forall_mem_nil _, forall_mem_nil _⟩

theorem run_between (h : Run Careful engine) : Between engine := by
  induction h with
  | new portForwards => exact between_new portForwards
  | turn _ _ possible meets done ih => exact between_turn possible meets done ih

/-- **The bytes are relayed.** If every write and every send takes what it is given, and nothing is left in the buffers
of a connection that has ended: the host client has got the beginning of what the guest has sent; what was read from the
client is delivered or waits to be; and once a connection is dropped, the guest has got everything, and so has the
client if the guest has closed its side. No turn fails, and what has ended is dropped in the same turn. -/
theorem bytes_relayed {engine : ProxyEngine} (h : Run Careful engine) :
    (∀ pf ∈ engine.portForwards, ∀ e ∈ pf.pending ++ pf.active, ∃ s, engine.sockets e.1 = some s ∧
      e.2.received <+: s.sent ∧ e.2.read = s.delivered ++ s.tx ∧ s.ended = false) ∧
    (∀ c ∈ engine.dropped, c.2.received <+: c.1.sent ∧ (c.1.rxFinReceived = true → c.2.received = c.1.sent) ∧
      c.1.delivered = c.2.read) ∧
    ∀ turn, Possible engine turn → ∃ engine', engine.turn turn = some engine' := by
  have hbetween := run_between h
  refine ⟨fun pf hpf e he => ?_, fun c hc => ?_, fun turn hpossible => turn_some hpossible hbetween⟩
  · obtain ⟨hpending, hactive⟩ := hbetween.connections pf hpf
    cases mem_append.mp he with
    | inl hmem =>
      obtain ⟨s, hs, hwaiting, hended⟩ := hpending e hmem
      exact ⟨s, hs, hwaiting.received_sent, hwaiting.read, hended⟩
    | inr hmem =>
      obtain ⟨s, hs, hrelayed, hended⟩ := hactive e hmem
      exact ⟨s, hs, hrelayed.received_sent, hrelayed.read, hended⟩
  · have hdone := hbetween.dropped c hc
    exact ⟨hdone.received, hdone.all, hdone.read⟩

/-! ### One connection alone -/

/-- The server in the guest. -/
def guest : Ipv4Addr × UInt16 := (.ofOctets 10 89 0 2, 80)

/-- A socket that connects. -/
def firstSocket : Socket := ⟨.synSent, 49152, guest, [], [], false, [], [], []⟩

/-- The proxy with one connection. -/
def alone (pending active : List (ℕ × TcpStream)) (socket : Option Socket) (dropped : List (Socket × TcpStream)) :
    ProxyEngine :=
  ⟨fun i => if i = 1 then socket else none, [⟨guest.1, guest.2, pending, active⟩], 49153, dropped⟩

/-- After data of the connection was moved. -/
def after (r : Socket × TcpStream) : ProxyEngine :=
  if r.1.ended then alone [] [] none [r] else alone [] [(1, r.2)] (some r.1) []

/-- A turn that meets no new connection. -/
def meets (p : Polled) (io : Io) : Turn := ⟨[], fun _ => p, fun _ => io⟩

/-- The calls return nothing. -/
def idle : Io := ⟨0, [], false, .wouldBlock, 0⟩

/-- A turn that accepts. -/
def accepting : Turn := ⟨[⟨0, 1, true⟩], fun _ => ⟨[], 0, 0, false, .synSent⟩, fun _ => idle⟩

theorem update_alone {s s' : Option Socket} :
    Function.update (fun i : ℕ => if i = 1 then s else none) 1 s' = fun i => if i = 1 then s' else none := by
  funext i
  by_cases hi : i = 1
  · simp [hi]
  · simp [hi]

theorem poll_alone : (alone pending active (some s) dropped).poll (fun _ => p) =
      alone pending active (some (s.poll p)) dropped := by
  simp only [poll, alone]
  congr 1
  funext i
  split <;> rfl

theorem exchange_alone : (alone pending active (some s) dropped).exchange (meets p io) =
      alone pending active (some (s.poll p)) dropped := poll_alone

theorem accept_first : (new [guest]).acceptConnections accepting.accepted =
    alone [(1, ⟨[], []⟩)] [] (some firstSocket) [] := by
  simp only [accepting, acceptConnections, foldl_cons, foldl_nil, acceptConnection,
    openGuestTcp, new, map_cons, List.getElem?_cons_zero]
  congr 1
  funext i
  by_cases hi : i = 1
  · subst hi
    rfl
  · simp [hi]

theorem exchange_accepting : (new [guest]).exchange accepting = alone [(1, ⟨[], []⟩)] [] (some firstSocket) [] := by
  rw [exchange, accept_first]
  exact poll_alone

theorem turn_accepting : (new [guest]).turn accepting = some (alone [(1, ⟨[], []⟩)] [] (some firstSocket) []) := by
  have hpromote : (alone [(1, ⟨[], []⟩)] [] (some firstSocket) []).promoteEstablished =
      some (alone [(1, ⟨[], []⟩)] [] (some firstSocket) []) := by
    simp only [promoteEstablished, forEach, alone, visitAll, sweep]
    simp [promotion, firstSocket]
  simp only [turn, exchange_accepting, hpromote]
  rfl

/-- An open connection: its data is moved, and it may be dropped. -/
theorem proxy_alone : ((alone [] [(1, stream)] (some s) []).proxyData fun _ => io).bind cleanup =
      some (after (proxyConnection io s stream)) := by
  have hproxy : ((alone [] [(1, stream)] (some s) []).proxyData fun _ => io) =
      some (alone [] [(1, (proxyConnection io s stream).2)] (some (proxyConnection io s stream).1) []) := by
    simp only [proxyData, forEach, alone, visitAll, sweep]
    simp [update_alone]
  rw [hproxy, bind_some]
  simp only [cleanup, forEach, alone, visitAll, sweep, after]
  by_cases hended : (proxyConnection io s stream).1.ended = true
  · simp [update_alone, hended]
  · simp [hended]

theorem turn_active :
    (alone [] [(1, stream)] (some s) []).turn (meets p io) = some (after (proxyConnection io (s.poll p) stream)) := by
  have hpromote : (alone [] [(1, stream)] (some (s.poll p)) []).promoteEstablished =
      some (alone [] [(1, stream)] (some (s.poll p)) []) := rfl
  simp only [turn, exchange_alone, hpromote, bind_eq_bind, bind_some]
  exact proxy_alone

theorem turn_promotes (h : p.state = .established) :
    (alone [(1, stream)] [] (some s) []).turn (meets p io) = some (after (proxyConnection io (s.poll p) stream)) := by
  have hstate : (s.poll p).state = .established := h
  have hpromote : (alone [(1, stream)] [] (some (s.poll p)) []).promoteEstablished =
      some (alone [] [(1, stream)] (some (s.poll p)) []) := by
    simp only [promoteEstablished, forEach, alone, visitAll, sweep]
    simp [promotion, hstate]
  simp only [turn, exchange_alone, hpromote, bind_eq_bind, bind_some]
  exact proxy_alone

theorem sockets_alone {s'} (h : (alone pending active (some s) dropped).sockets i = some s') : s' = s := by
  simp only [alone] at h
  split_ifs at h
  exact (Option.some.inj h).symm

theorem possible_alone (hvalid : p.Valid s) : Possible (alone pending active (some s) dropped) (meets p io) where
  forward := forall_mem_nil _
  apart := nodup_nil
  free := forall_mem_nil _
  valid i s' hs := by
    cases sockets_alone hs
    exact hvalid

theorem careful_alone (htakes : Takes io (s.poll p))
    (hpending : (s.poll p).ended = true → (s.poll p).rxFinReceived = true → pending ≠ [] → (s.poll p).rx = [])
    (hactive : (s.poll p).ended = true → active ≠ [] → Drained io (s.poll p)) :
    Careful (alone pending active (some s) dropped) (meets p io) := by
  refine ⟨?_, ?_, ?_⟩ <;> rw [exchange_alone]
  · intro i s' hs
    cases sockets_alone hs
    exact htakes
  · intro pf hpf e he s' hs hended hfin
    cases sockets_alone hs
    cases mem_singleton.mp hpf
    exact hpending hended hfin (ne_nil_of_mem he)
  · intro pf hpf e he s' hs hended
    cases sockets_alone hs
    cases mem_singleton.mp hpf
    exact hactive hended (ne_nil_of_mem he)

theorem possible_accepting : Possible (.new [guest]) accepting where
  forward := by decide
  apart := by decide
  free a _ := rfl
  valid i s hs := by
    rw [accept_first] at hs
    cases sockets_alone hs
    exact (by decide : Polled.Valid ⟨[], 0, 0, false, .synSent⟩ firstSocket)

theorem careful_accepting : Careful (.new [guest]) accepting := by
  refine ⟨?_, ?_, ?_⟩ <;> rw [exchange_accepting]
  · intro i s hs
    cases sockets_alone hs
    exact ⟨⟨forall_mem_nil _, le_rfl⟩, fun bytes hread => nomatch hread⟩
  · intro pf _ e _ s hs hended
    cases sockets_alone hs
    cases hended
  · intro pf _ e _ s hs hended
    cases sockets_alone hs
    cases hended

/-- The guest answers. -/
def established : Polled := ⟨[], 0, 0, false, .established⟩

/-- A socket that is connected. -/
def openSocket : Socket := { firstSocket with state := .established }

theorem run_open (haccept : ok (.new [guest]) accepting)
    (hestablish : ok (alone [(1, ⟨[], []⟩)] [] (some firstSocket) []) (meets established idle)) :
    Run ok (alone [] [(1, ⟨[], []⟩)] (some openSocket) []) :=
  .turn _ (.turn _ (.new [guest]) possible_accepting haccept turn_accepting) (possible_alone (by decide)) hestablish
    (turn_promotes rfl)

theorem run_turn (p) (io) (h : Run ok (alone [] [(1, stream)] (some s) [])) (hvalid : p.Valid s)
    (hok : ok (alone [] [(1, stream)] (some s) []) (meets p io)) :
    Run ok (after (proxyConnection io (s.poll p) stream)) :=
  .turn _ h (possible_alone hvalid) hok turn_active

/-- The guest sends `hi` while the host client sends `ok`. -/
def bothSend : Turn :=
  meets ⟨[104, 105], 2, 0, false, .established⟩ ⟨2, [.ok 1, .interrupted, .ok 1], false, .ok [111, 107], 2⟩

/-- The guest has got everything, and closes. -/
def guestCloses : Turn := meets ⟨[], 0, 2, true, .closeWait⟩ idle

/-- What has become of the connection. -/
def relayedHi : Socket × TcpStream :=
  (⟨.closeWait, 49152, guest, [], [], true, [104, 105], [], [111, 107]⟩, ⟨[104, 105], [111, 107]⟩)

theorem hi_relayed : Run Careful (alone [] [] none [relayedHi]) ∧ relayedHi.1.rxFinReceived = true ∧
      relayedHi.2.received = relayedHi.1.sent ∧ relayedHi.1.delivered = relayedHi.2.read := by
  have hopen : Run Careful (alone [] [(1, ⟨[], []⟩)] (some openSocket) []) := by
    refine run_open careful_accepting (careful_alone ?_ ?_ ?_)
    · exact ⟨⟨forall_mem_nil _, le_rfl⟩, fun bytes hread => nomatch hread⟩
    · exact fun hended => nomatch hended
    · exact fun hended => nomatch hended
  have hboth : Run Careful
      (after (proxyConnection (bothSend.io 1) (openSocket.poll (bothSend.polled 1)) ⟨[], []⟩)) := by
    refine run_turn _ _ hopen (by decide) (careful_alone ?_ ?_ ?_)
    · refine ⟨⟨by decide, by decide⟩, fun bytes hread => ?_⟩
      cases hread
      decide
    · exact fun hended => nomatch hended
    · exact fun hended => nomatch hended
  have hrun : Run Careful (alone [] [] none [relayedHi]) := by
    refine run_turn (guestCloses.polled 1) idle hboth (by decide) (careful_alone ?_ ?_ ?_)
    · exact ⟨⟨forall_mem_nil _, le_rfl⟩, fun bytes hread => nomatch hread⟩
    · exact fun _ _ hne => absurd rfl hne
    · exact fun _ _ => .inr ⟨fun _ => le_rfl, rfl, fun _ _ => rfl⟩
  obtain ⟨-, hall, hread⟩ := (bytes_relayed hrun).2.1 relayedHi mem_cons_self
  exact ⟨hrun, rfl, hall rfl, hread⟩

/-- No condition. -/
abbrev Any (_ : ProxyEngine) (_ : Turn) : Prop := True

/-- The guest sends `ab` and then `c`, and the host client takes one byte at a time: it gets `ac`. The client sends
`ab`, of which the send buffer takes one byte. The guest sends `ab`, not in one piece, and closes: the client gets `a`.
The client sends `ab` when the guest has closed its side: they are dropped. -/
theorem bytes_dropped :
    (∃ engine, Run Any engine ∧ ∃ pf ∈ engine.portForwards, ∃ e ∈ pf.active, ∃ s, engine.sockets e.1 = some s ∧
      ¬ e.2.received <+: s.sent) ∧
    (∃ engine, Run Any engine ∧ ∃ pf ∈ engine.portForwards, ∃ e ∈ pf.active, ∃ s, engine.sockets e.1 = some s ∧
      e.2.read ≠ s.delivered ++ s.tx) ∧
    (∃ engine, Run Any engine ∧ ∃ c ∈ engine.dropped, c.1.rxFinReceived = true ∧ c.2.received ≠ c.1.sent) ∧
    ∃ engine, Run Any engine ∧ ∃ c ∈ engine.dropped, c.1.rxFinReceived = true ∧ c.1.delivered ≠ c.2.read := by
  have hopen : Run Any (alone [] [(1, ⟨[], []⟩)] (some openSocket) []) := run_open trivial trivial
  refine ⟨?_, ?_, ?_, ?_⟩
  · have hfirst := run_turn ⟨[97, 98], 2, 0, false, .established⟩ ⟨2, [.ok 1], false, .wouldBlock, 0⟩ hopen
      (by decide) trivial
    have hsecond := run_turn ⟨[99], 1, 0, false, .established⟩ ⟨1, [.ok 1], false, .wouldBlock, 0⟩ hfirst
      (by decide) trivial
    exact ⟨_, hsecond, _, mem_cons_self, _, mem_cons_self, _, rfl, by decide⟩
  · have hrun := run_turn established ⟨0, [], false, .ok [97, 98], 1⟩ hopen (by decide) trivial
    exact ⟨_, hrun, _, mem_cons_self, _, mem_cons_self, _, rfl, by decide⟩
  · have hrun := run_turn ⟨[97, 98], 2, 0, true, .closeWait⟩ ⟨1, [.ok 1], false, .wouldBlock, 0⟩ hopen
      (by decide) trivial
    exact ⟨_, hrun, _, mem_cons_self, rfl, by decide⟩
  · have hrun := run_turn ⟨[], 0, 0, true, .closeWait⟩ ⟨0, [], false, .ok [97, 98], 2⟩ hopen (by decide) trivial
    exact ⟨_, hrun, _, mem_cons_self, rfl, by decide⟩

end A3sBox.NetProxy
