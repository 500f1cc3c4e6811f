import A3sBox.Library.Ipv4
import A3sBox.Library.Slots

/-!
# The port-forwarding proxy

`netproxy/src/lib.rs`: for a box whose network is a bridge, a thread of the host accepts connections on the forwarded
ports, opens a TCP connection to the guest for each with the stack of smoltcp, and carries the bytes in both
directions.

## The model

`ProxyEngine.turn` is one turn of the loop: it accepts, polls the stack, promotes what has been established, moves
data, and drops what is closed. What is not in the thread's hands comes with the turn. A write and a send take any
number of bytes. A `Socket` and a `TcpStream` also tell which bytes have gone through them, and dropped connections
are kept as they were.

A run is any number of turns that can happen: the stack hands out free handles and keeps to TCP. `Careful` is the
condition under which no byte is lost.
-/

namespace A3sBox.NetProxy

open Slots

/-! ### The sockets -/

/-- The state of a TCP connection. -/
inductive TcpState where
  | closed
  | listen
  | synSent
  | synReceived
  | established
  | finWait1
  | finWait2
  | closeWait
  | closing
  | lastAck
  | timeWait
  deriving DecidableEq, Repr

/-- A TCP socket of smoltcp. -/
structure Socket where
  state : TcpState
  localPort : UInt16
  remote : Ipv4Addr × UInt16
  /-- Received from the guest, not yet taken. -/
  rx : List UInt8
  /-- To be sent to the guest, not yet delivered. -/
  tx : List UInt8
  /-- The guest has closed its side, and everything it has sent is here. -/
  rxFinReceived : Bool
  taken : List UInt8
  /-- What the guest has sent that is not yet here. -/
  onTheWay : List UInt8
  delivered : List UInt8

variable (s : Socket)

/-- What the guest has sent. -/
def Socket.sent : List UInt8 := s.taken ++ s.rx ++ s.onTheWay

/-- Something can be received. -/
def Socket.canRecv : Bool := !s.rx.isEmpty

/-- The connection can still send. -/
def Socket.maySend : Bool := s.state = .established || s.state = .closeWait

/-- Close a socket. -/
def Socket.close : Socket :=
  match s.state with
  | .listen | .synSent => { s with state := .closed }
  | .synReceived | .established => { s with state := .finWait1 }
  | .closeWait => { s with state := .lastAck }
  | _ => s

/-- The states in which the proxy drops a connection. -/
def Socket.ended : Bool := s.state = .closed || s.state = .timeWait || s.state = .closeWait

/-- What polling the stack does to a socket. -/
structure Polled where
  sends : List UInt8
  /-- How many of the bytes on the way have come. -/
  arrives : ℕ
  /-- How many bytes the guest has got. -/
  delivers : ℕ
  fin : Bool
  state : TcpState

/-- What the stack does to a socket. -/
def Socket.poll (p : Polled) : Socket :=
  { s with
    state := p.state
    rx := s.rx ++ (s.onTheWay ++ p.sends).take p.arrives
    onTheWay := (s.onTheWay ++ p.sends).drop p.arrives
    tx := s.tx.drop p.delivers
    delivered := s.delivered ++ s.tx.take p.delivers
    rxFinReceived := s.rxFinReceived || p.fin }

/-- The connection of the proxy to the host client. -/
structure TcpStream where
  received : List UInt8
  read : List UInt8

/-- What a `write` returns. -/
inductive WriteResult where
  /-- So many bytes were taken. -/
  | ok (n : ℕ)
  | interrupted
  /-- It would block, or failed. -/
  | error
  deriving DecidableEq

/-- What `write_all` writes; when there are no more results, the next write would block. -/
def writeAll : List WriteResult → List UInt8 → List UInt8
  | [], _ => []
  | w :: writes, data =>
    if data = [] then [] else
      match w with
      | .ok 0 => []
      | .ok (n + 1) => data.take (n + 1) ++ writeAll writes (data.drop (n + 1))
      | .interrupted => writeAll writes data
      | .error => []

/-- What a `read` returns. -/
inductive ReadResult where
  /-- So many bytes; none at the end. -/
  | ok (bytes : List UInt8)
  | wouldBlock
  | error
  deriving DecidableEq

/-- What the calls on the two sockets of a connection return. -/
structure Io where
  /-- How many bytes of the receive buffer lie in one piece. -/
  contiguous : ℕ
  writes : List WriteResult
  full : Bool
  read : ReadResult
  /-- How many bytes the send buffer takes. -/
  accepts : ℕ

/-! ### The engine -/

/-- A forwarded port. -/
structure PortForward where
  guestIp : Ipv4Addr
  guestPort : UInt16
  pending : List (ℕ × TcpStream)
  active : List (ℕ × TcpStream)

/-- The proxy. -/
structure ProxyEngine where
  sockets : Table Socket
  portForwards : List PortForward
  nextEphemeral : UInt16
  dropped : List (Socket × TcpStream)

/-- The first port on this side. -/
def ephemeralBase : UInt16 := 49152

/-- A connection there is to accept. -/
structure Accepted where
  forward : ℕ
  handle : ℕ
  connects : Bool

variable (engine : ProxyEngine)

/-- A socket is made, and asks the guest for a connection. -/
def ProxyEngine.openGuestTcp (guestIp : Ipv4Addr) (guestPort : UInt16) (handle : ℕ) (connects : Bool) : ProxyEngine :=
  let next := engine.nextEphemeral + 1
  { engine with
    sockets := Function.update engine.sockets handle (some {
      state := if connects then .synSent else .closed
      localPort := engine.nextEphemeral
      remote := (guestIp, guestPort)
      rx := [], tx := [], rxFinReceived := false, taken := [], onTheWay := [], delivered := [] })
    nextEphemeral := if next < ephemeralBase then ephemeralBase else next }

/-- Accept a connection. -/
def ProxyEngine.acceptConnection (a : Accepted) : ProxyEngine :=
  match engine.portForwards[a.forward]? with
  | none => engine
  | some pf =>
    let engine := engine.openGuestTcp pf.guestIp pf.guestPort a.handle a.connects
    let pf := { pf with pending := pf.pending ++ [(a.handle, ⟨[], []⟩)] }
    { engine with portForwards := engine.portForwards.set a.forward pf }

/-- Accept connections. -/
def ProxyEngine.acceptConnections (accepted : List Accepted) : ProxyEngine :=
  accepted.foldl ProxyEngine.acceptConnection engine

/-- Poll the stack. -/
def ProxyEngine.poll (polled : ℕ → Polled) : ProxyEngine :=
  { engine with sockets := fun i => (engine.sockets i).map fun s => s.poll (polled i) }

/-- A loop over the forwarded ports. -/
def ProxyEngine.forEach
    (visit : Table Socket → PortForward → Option (Table Socket × PortForward × List (Socket × TcpStream)))
    (engine : ProxyEngine) : Option ProxyEngine := do
  let (sockets, portForwards, dropped) ← visitAll visit engine.sockets engine.portForwards
  some { engine with sockets, portForwards, dropped := engine.dropped ++ dropped }

/-- An established connection is promoted, one that has failed is dropped. -/
def promotion (_ : ℕ) (s : Socket) (stream : TcpStream) : Fate Socket TcpStream :=
  match s.state with
  | .established => .moves s stream
  | .closed | .timeWait | .closeWait => .goes
  | _ => .stays s stream

/-- The connections that are being opened are looked at. -/
def ProxyEngine.promoteEstablished : ProxyEngine → Option ProxyEngine :=
  ProxyEngine.forEach fun sockets pf =>
    (sweep promotion sockets pf.pending).map fun r =>
      (r.table, { pf with pending := r.stayed, active := pf.active ++ r.moved }, r.gone)

/-- What the guest has sent goes to the host client. -/
def guestToHost (io : Io) (s : Socket) (stream : TcpStream) : Socket × TcpStream :=
  if s.canRecv then
    let data := s.rx.take io.contiguous
    -- the result of `write_all` is thrown away, and all of `data` is taken from the buffer
    ({ s with rx := s.rx.drop io.contiguous, taken := s.taken ++ data },
      { stream with received := stream.received ++ writeAll io.writes data })
  else (s, stream)

/-- What the host client has sent goes to the guest. -/
def hostToGuest (io : Io) (s : Socket) (stream : TcpStream) : Socket × TcpStream :=
  if s.maySend && !io.full then
    match io.read with
    | .ok bytes =>
      let data := bytes.take 8192
      if data = [] then (s.close, stream)
      -- `send_slice` tells how many bytes it has taken, but nobody looks
      else ({ s with tx := s.tx ++ data.take io.accepts }, { stream with read := stream.read ++ data })
    | .wouldBlock => (s, stream)
    | .error => (s.close, stream)
  else (s, stream)

/-- Data of one connection is moved in both directions. -/
def proxyConnection (io : Io) (s : Socket) (stream : TcpStream) : Socket × TcpStream :=
  let (s, stream) := guestToHost io s stream
  hostToGuest io s stream

/-- Data of all the open connections is moved. -/
def ProxyEngine.proxyData (io : ℕ → Io) : ProxyEngine → Option ProxyEngine :=
  ProxyEngine.forEach fun sockets pf =>
    (sweep (fun i s stream => .stays (proxyConnection (io i) s stream).1 (proxyConnection (io i) s stream).2)
      sockets pf.active).map fun r => (r.table, { pf with active := r.stayed }, r.gone)

/-- The open connections that are closed now are dropped. -/
def ProxyEngine.cleanup : ProxyEngine → Option ProxyEngine :=
  ProxyEngine.forEach fun sockets pf =>
    (sweep (fun _ s stream => if s.ended then .goes else .stays s stream) sockets pf.active).map fun r =>
      (r.table, { pf with active := r.stayed }, r.gone)

/-- What one turn of the loop meets. -/
structure Turn where
  accepted : List Accepted
  polled : ℕ → Polled
  /-- What the calls on the sockets of each connection return. -/
  io : ℕ → Io

/-- After connections were accepted and the stack was polled. -/
def ProxyEngine.exchange (turn : Turn) : ProxyEngine :=
  (engine.acceptConnections turn.accepted).poll turn.polled

/-- One turn of the loop. -/
def ProxyEngine.turn (turn : Turn) : Option ProxyEngine := do
  let engine ← (engine.exchange turn).promoteEstablished
  let engine ← engine.proxyData turn.io
  engine.cleanup

/-- The proxy when the loop begins. -/
def ProxyEngine.new (portForwards : List (Ipv4Addr × UInt16)) : ProxyEngine :=
  ⟨fun _ => none, portForwards.map fun guest => ⟨guest.1, guest.2, [], []⟩, ephemeralBase, []⟩

/-! ### Runs -/

/-- What TCP promises: the end of what the guest sends, and the states that say so, come after all that it has sent. -/
def Polled.Valid (p : Polled) (s : Socket) : Prop :=
  (s.rxFinReceived = true → p.sends = []) ∧
    ((s.poll p).rxFinReceived = true → (s.poll p).onTheWay = []) ∧
    ((s.poll p).state ∈ [TcpState.closeWait, .closing, .lastAck, .timeWait] → (s.poll p).rxFinReceived = true)

instance (p : Polled) (s : Socket) : Decidable (p.Valid s) := inferInstanceAs (Decidable (_ ∧ _ ∧ _))

/-- What a turn can meet: a new socket gets a free handle, and the stack keeps to TCP. -/
structure Possible (engine : ProxyEngine) (turn : Turn) : Prop where
  forward : ∀ a ∈ turn.accepted, a.forward < engine.portForwards.length
  apart : (turn.accepted.map Accepted.handle).Nodup
  free : ∀ a ∈ turn.accepted, engine.sockets a.handle = none
  valid : ∀ i s, (engine.acceptConnections turn.accepted).sockets i = some s → (turn.polled i).Valid s

/-- The runs in which every turn meets a condition. -/
inductive Run (ok : ProxyEngine → Turn → Prop) : ProxyEngine → Prop where
  | new (portForwards : List (Ipv4Addr × UInt16)) : Run ok (.new portForwards)
  | turn {engine engine'} (turn : Turn) (before : Run ok engine) (possible : Possible engine turn)
      (meets : ok engine turn) (done : engine.turn turn = some engine') : Run ok engine'

/-- How many bytes a write has taken. -/
def WriteResult.count : WriteResult → ℕ
  | .ok n => n
  | _ => 0

/-- The writes take all of the data: none fails and none takes nothing. -/
def Absorbs (writes : List WriteResult) (data : List UInt8) : Prop :=
  (∀ w ∈ writes, w ≠ .error ∧ w ≠ .ok 0) ∧ data.length ≤ (writes.map WriteResult.count).sum

/-- The host client takes what has come from the guest, and the send buffer what is read from the client. -/
def Takes (io : Io) (s : Socket) : Prop :=
  Absorbs io.writes (s.rx.take io.contiguous) ∧ ∀ bytes, io.read = .ok bytes → (bytes.take 8192).length ≤ io.accepts

/-- Nothing is left in a socket that is about to be dropped: what has come from the guest lies in one piece, everything
for the guest has been delivered, and the host client has sent nothing more; or the client has closed its side, and the
socket lives on. -/
def Drained (io : Io) (s : Socket) : Prop :=
  (s.state = .closeWait ∧ io.full = false ∧ (io.read = .ok [] ∨ io.read = .error)) ∨
    (s.rxFinReceived = true → s.rx.length ≤ io.contiguous) ∧ s.tx = [] ∧
      (s.state = .closeWait → io.full = false → io.read = .wouldBlock)

/-- The condition on a turn, after the stack was polled. -/
structure Careful (engine : ProxyEngine) (turn : Turn) : Prop where
  /-- The calls take what they are given. -/
  takes : ∀ i s, (engine.exchange turn).sockets i = some s → Takes (turn.io i) s
  /-- A connection that has ended before it was promoted has received nothing. -/
  pending : ∀ pf ∈ (engine.exchange turn).portForwards, ∀ e ∈ pf.pending, ∀ s,
    (engine.exchange turn).sockets e.1 = some s → s.ended = true → s.rxFinReceived = true → s.rx = []
  /-- Nothing is left in a connection that has ended. -/
  active : ∀ pf ∈ (engine.exchange turn).portForwards, ∀ e ∈ pf.active, ∀ s,
    (engine.exchange turn).sockets e.1 = some s → s.ended = true → Drained (turn.io e.1) s

end A3sBox.NetProxy
