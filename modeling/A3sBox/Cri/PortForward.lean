import A3sBox.Library.Framing
import A3sBox.Library.Machine

/-!
# Forwarding a port

`serve_port_forward` of `cri/src/spdy.rs` and `handle_port_forward_stream` of `cri/src/streaming.rs` on the host, and
`serve_control` with its reader threads of `guest/init/src/port_forward.rs` in the guest. The host asks the guest to
connect to a server, waits for the answer, and relays what the client and the guest send.

## The model

A step is taken by the client, the host, the loop of the guest, a reader or a server, in any order. Frames are written
whole, and a write to a connection is one step. A connection that was shut down gives what has arrived, and then the
end; what the server writes afterwards is lost. The control connection does not fail. `handle_port_forward_stream`
begins where `serve_port_forward` has collected its streams.

`opened_by_ack`: if no reader writes before the answer, that is the first frame the host receives. In
`data_before_ack` the server speaks first.
-/

namespace A3sBox.Cri.PortForward

open Machine List

/-! ### Frames -/

/-- The kinds of frames of the control connection. -/
inductive FrameKind where
  | open
  | openAck
  | data
  | close
  | unknown (n : UInt8)
  deriving DecidableEq, Repr

/-- A frame of the control connection. -/
structure Frame where
  kind : FrameKind
  streamId : UInt32
  payload : List UInt8
  deriving DecidableEq, Repr

/-- `PORT_FORWARD_STREAM_ID`, the one stream that the host opens. -/
def portForwardStreamId : UInt32 := 1

/-- The frame that asks for a connection. -/
def openFrame (port : UInt16) : Frame := ⟨.open, portForwardStreamId, Framing.toBeBytes 2 port.toNat⟩

/-- The answer to the host. -/
def ackFrame (streamId : UInt32) (status : UInt8) : Frame := ⟨.openAck, streamId, [status]⟩

/-- Bytes of a stream. -/
def dataFrame (streamId : UInt32) (bytes : List UInt8) : Frame := ⟨.data, streamId, bytes⟩

/-- The end of a stream. -/
def closeFrame (streamId : UInt32) : Frame := ⟨.close, streamId, []⟩

/-- A frame of the client, as `read_frame` of `spdy.rs` returns it. -/
inductive ClientFrame where
  | synStream (streamId : UInt32)
  | ping (id : UInt32)
  | data (streamId : UInt32) (fin : Bool) (bytes : List UInt8)
  | ignored
  deriving DecidableEq, Repr

/-! ### The parties -/

/-- The task `client_to_guest`. -/
inductive ClientTask where
  | reading
  /-- It has to tell the guest that the client has ended. -/
  | closing
  | finished
  deriving DecidableEq, Repr

/-- Where the host is. -/
inductive Host where
  | collecting (streamIds : List UInt32)
  | connecting (dataId : UInt32)
  /-- It has asked for a connection, and waits for the answer. -/
  | awaiting (dataId : UInt32)
  /-- It relays in both directions; the task `guest_to_client` has not finished. -/
  | relaying (dataId : UInt32) (task : ClientTask)
  | returned
  deriving DecidableEq, Repr

/-- Where the reader of a connection is. -/
inductive Reader where
  | reading
  /-- It has read bytes, and has to write them to the host. -/
  | holding (bytes : List UInt8)
  | closing
  /-- It has closed the stream, and has to tell the host. -/
  | ending
  | exited
  deriving DecidableEq, Repr

/-- A connection to a server. -/
structure Conn where
  streamId : UInt32
  sent : List UInt8
  unread : List UInt8
  ended : Bool
  gone : Bool
  received : List UInt8
  shut : Bool
  reader : Reader
  deriving DecidableEq, Repr

/-- Where the loop of `serve_control` is. -/
inductive Loop where
  | waiting
  | acking (streamId : UInt32) (status : UInt8)
  /-- A write to a server has failed: it has to tell the host. -/
  | closing (streamId : UInt32)
  | returned
  deriving DecidableEq, Repr

/-- The state of a session. -/
structure State where
  fromClient : List ClientFrame
  clientClosed : Bool
  opened : List UInt32
  finned : List UInt32
  clientSent : List UInt8
  clientGot : List UInt8
  host : Host
  toGuest : List Frame
  toHost : List Frame
  received : List Frame
  loop : Loop
  streams : UInt32 → Option ℕ
  conns : List Conn

/-! ### The guest -/

/-- What a connect or a write to a server comes to. -/
inductive Answer where
  | done
  | failed
  /-- The connection is there, and its descriptor cannot be duplicated. -/
  | exhausted
  deriving DecidableEq, Repr

/-- A connection to a server that has just accepted it, with its reader. -/
def Conn.new (streamId : UInt32) : Conn := ⟨streamId, [], [], false, false, [], false, .reading⟩

/-- Write to the server. -/
def Conn.deliver (conn : Conn) (bytes : List UInt8) : Conn :=
  { conn with received := if conn.gone then conn.received else conn.received ++ bytes }

section

variable (s : State)

/-- A connection changes. -/
def State.setConn (k : ℕ) (conn : Conn) : State := { s with conns := s.conns.set k conn }

/-- `close_stream` -/
def State.closeStream (streamId : UInt32) : State :=
  match s.streams streamId with
  | none => s
  | some k =>
    { s with
      streams := Function.update s.streams streamId none
      conns := s.conns.modify k fun conn => { conn with shut := true } }

variable (frame : Frame)

/-- What `serve_control` does with a frame, up to its answer. -/
def State.handle (answer : Answer) : State :=
  match frame.kind with
  | .open =>
    if frame.payload.length ≠ 2 then { s with loop := .acking frame.streamId 1 }
    else
      match answer with
      | .done =>
        { s with
          streams := Function.update s.streams frame.streamId (some s.conns.length)
          conns := s.conns ++ [.new frame.streamId]
          loop := .acking frame.streamId 0 }
      | .failed => { s with loop := .acking frame.streamId 1 }
      | .exhausted => { s with loop := .returned }
  | .data =>
    match s.streams frame.streamId with
    | none => s
    | some k =>
      match answer with
      | .done => { s with conns := s.conns.modify k (·.deliver frame.payload) }
      | _ => { s.closeStream frame.streamId with loop := .closing frame.streamId }
  | .close => s.closeStream frame.streamId
  | .openAck | .unknown _ => s

/-- A write to a server fails only if the server has closed its connection. -/
def State.Allows (answer : Answer) : Prop :=
  frame.kind = .data → answer ≠ .done → ∀ k, s.streams frame.streamId = some k →
    ∃ conn, s.conns[k]? = some conn ∧ conn.gone = true

/-- `write_frame` of the guest. A frame to a host that has returned is lost. -/
def State.write : State :=
  if s.host = .returned then s else { s with toHost := s.toHost ++ [frame] }

/-! ### The host -/

/-- What a frame of the client does while streams are collected: the second stream is that of the data. -/
def Host.collect (streamIds : List UInt32) : ClientFrame → Host
  | .synStream streamId =>
    match streamIds with
    | [] => .collecting [streamId]
    | _ :: _ => .connecting streamId
  | _ => .collecting streamIds

/-- Whether a frame is the answer that the connection is there. -/
def Frame.openOk : Bool :=
  frame.kind == .openAck && frame.streamId == portForwardStreamId && frame.payload.head?.getD 1 == 0

/-- What `client_to_guest` does with a frame: the frames that it writes, and where it goes on. -/
def relayClient (dataId : UInt32) : ClientFrame → List Frame × ClientTask
  | .data streamId fin bytes =>
    if streamId = dataId then
      (if bytes = [] then [] else [dataFrame portForwardStreamId bytes], if fin then .closing else .reading)
    else ([], .reading)
  | _ => ([], .reading)

/-- What `guest_to_client` does with a frame. -/
def State.relayGuest : State :=
  if frame.streamId = portForwardStreamId then
    match frame.kind with
    | .data => { s with clientGot := s.clientGot ++ frame.payload }
    | .close => { s with host := .returned }
    | _ => s
  else s

/-! ### The client -/

/-- The stream that a frame opens. -/
def ClientFrame.syn : ClientFrame → List UInt32
  | .synStream streamId => [streamId]
  | _ => []

/-- The stream that a frame ends. -/
def ClientFrame.fin : ClientFrame → List UInt32
  | .data streamId true _ => [streamId]
  | _ => []

/-- The bytes of a frame. -/
def ClientFrame.bytes : ClientFrame → List UInt8
  | .data _ _ bytes => bytes
  | _ => []

/-- A frame does not follow the end of its stream. -/
def ClientFrame.Follows (finned : List UInt32) : ClientFrame → Prop
  | .data streamId _ _ => streamId ∉ finned
  | _ => True

/-- The client sends a frame. -/
def State.clientSends (frame : ClientFrame) : State :=
  { s with
    fromClient := s.fromClient ++ [frame]
    opened := s.opened ++ frame.syn
    finned := s.finned ++ frame.fin
    clientSent := s.clientSent ++ frame.bytes }

end

/-! ### Steps -/

/-- What may happen. -/
inductive Event where
  | clientSends (frame : ClientFrame)
  | clientCloses
  | hostCollects
  | hostConnects (port : UInt16) (connected : Bool)
  /-- The host reads the first frame of the guest. -/
  | hostReadsAck
  | hostReadsEnd
  | hostReadsClient
  /-- `client_to_guest` tells the guest that the client has ended. -/
  | hostSendsClose
  | hostReadsGuest
  | guestReads (answer : Answer)
  | guestAcks
  /-- The loop tells the host that a write has failed. -/
  | guestCloses
  /-- The loop sees that the host has hung up. -/
  | guestHangsUp
  /-- The reader of a connection reads some bytes. -/
  | readerReads (k n : ℕ)
  | readerEnds (k : ℕ)
  | readerWrites (k : ℕ)
  | readerCloses (k : ℕ)
  | readerExits (k : ℕ)
  | serverWrites (k : ℕ) (bytes : List UInt8)
  | serverEnds (k : ℕ)
  | serverLeaves (k : ℕ)

/-- What the host and the guest do, as opposed to the client and the servers. -/
def Event.internal : Event → Bool
  | .clientSends _ | .clientCloses | .serverWrites _ _ | .serverEnds _ | .serverLeaves _ => false
  | _ => true

/-- A step of a session. -/
inductive Step : State → Event → State → Prop where
  | clientSends {s frame} (h : s.clientClosed = false) (hfollows : frame.Follows s.finned) :
      Step s (.clientSends frame) (s.clientSends frame)
  | clientCloses {s} : Step s .clientCloses { s with clientClosed := true }
  | hostCollects {s streamIds frame rest} (hhost : s.host = .collecting streamIds) (h : s.fromClient = frame :: rest) :
      Step s .hostCollects { s with fromClient := rest, host := Host.collect streamIds frame }
  /-- The client has closed its connection before its streams are there. -/
  | hostLeaves {s streamIds} (hhost : s.host = .collecting streamIds) (h : s.fromClient = [])
      (hclosed : s.clientClosed = true) : Step s .hostCollects { s with host := .returned }
  | hostConnects {s dataId} (port : UInt16) (hhost : s.host = .connecting dataId) :
      Step s (.hostConnects port true) { s with toGuest := s.toGuest ++ [openFrame port], host := .awaiting dataId }
  | hostFails {s dataId} (port : UInt16) (hhost : s.host = .connecting dataId) :
      Step s (.hostConnects port false) { s with host := .returned }
  /-- It reads the first frame, and goes on if that is the answer it waits for. -/
  | hostReadsAck {s dataId frame rest} (hhost : s.host = .awaiting dataId) (h : s.toHost = frame :: rest) :
      Step s .hostReadsAck
        { s with
          toHost := rest
          received := s.received ++ [frame]
          host := if frame.openOk then .relaying dataId .reading else .returned }
  /-- The control connection has ended: nobody in the guest holds it. -/
  | hostReadsEnd {s} (hhost : s.host ≠ .returned) (h : s.toHost = []) (hloop : s.loop = .returned)
      (hreaders : ∀ conn ∈ s.conns, conn.reader = .exited) : Step s .hostReadsEnd { s with host := .returned }
  | hostReadsClient {s dataId frame rest} (hhost : s.host = .relaying dataId .reading)
      (h : s.fromClient = frame :: rest) :
      Step s .hostReadsClient
        { s with
          fromClient := rest
          toGuest := s.toGuest ++ (relayClient dataId frame).1
          host := .relaying dataId (relayClient dataId frame).2 }
  | hostReadsClosed {s dataId} (hhost : s.host = .relaying dataId .reading) (h : s.fromClient = [])
      (hclosed : s.clientClosed = true) : Step s .hostReadsClient { s with host := .relaying dataId .closing }
  | hostSendsClose {s dataId} (hhost : s.host = .relaying dataId .closing) :
      Step s .hostSendsClose
        { s with
          toGuest := s.toGuest ++ [closeFrame portForwardStreamId]
          host := .relaying dataId .finished }
  | hostReadsGuest {s dataId task frame rest} (hhost : s.host = .relaying dataId task) (h : s.toHost = frame :: rest) :
      Step s .hostReadsGuest
        (State.relayGuest { s with toHost := rest, received := s.received ++ [frame] } frame)
  | guestReads {s frame rest answer} (hloop : s.loop = .waiting) (h : s.toGuest = frame :: rest)
      (hanswer : s.Allows frame answer) :
      Step s (.guestReads answer) (State.handle { s with toGuest := rest } frame answer)
  | guestAcks {s streamId status} (hloop : s.loop = .acking streamId status) :
      Step s .guestAcks
        { s.write (ackFrame streamId status) with loop := if s.host = .returned then .returned else .waiting }
  /-- The loop tells the host that a write has failed. -/
  | guestCloses {s streamId} (hloop : s.loop = .closing streamId) :
      Step s .guestCloses { s.write (closeFrame streamId) with loop := .waiting }
  /-- The host has hung up: the loop returns, whatever has arrived. -/
  | guestHangsUp {s} (hloop : s.loop = .waiting) (hhost : s.host = .returned) :
      Step s .guestHangsUp { s with loop := .returned }
  /-- A reader reads, at most as much as its buffer holds. -/
  | readerReads {s k n conn} (h : s.conns[k]? = some conn) (hreader : conn.reader = .reading) (hpos : 0 < n)
      (hn : n ≤ conn.unread.length) (hbuf : n ≤ 16384) :
      Step s (.readerReads k n)
        (s.setConn k { conn with unread := conn.unread.drop n, reader := .holding (conn.unread.take n) })
  | readerEnds {s k conn} (h : s.conns[k]? = some conn) (hreader : conn.reader = .reading)
      (hunread : conn.unread = []) (hend : conn.ended = true ∨ conn.shut = true) :
      Step s (.readerEnds k) (s.setConn k { conn with reader := .closing })
  /-- It writes what it has read; if it cannot, it leaves its loop. -/
  | readerWrites {s k conn bytes} (h : s.conns[k]? = some conn) (hreader : conn.reader = .holding bytes) :
      Step s (.readerWrites k)
        ((s.setConn k { conn with reader := if s.host = .returned then .closing else .reading }).write
          (dataFrame conn.streamId bytes))
  | readerCloses {s k conn} (h : s.conns[k]? = some conn) (hreader : conn.reader = .closing) :
      Step s (.readerCloses k) ((s.setConn k { conn with reader := .ending }).closeStream conn.streamId)
  | readerExits {s k conn} (h : s.conns[k]? = some conn) (hreader : conn.reader = .ending) :
      Step s (.readerExits k) ((s.setConn k { conn with reader := .exited }).write (closeFrame conn.streamId))
  /-- A server writes; on a connection that was shut down this is lost. -/
  | serverWrites {s k conn bytes} (h : s.conns[k]? = some conn) (hended : conn.ended = false) :
      Step s (.serverWrites k bytes)
        (s.setConn k
          { conn with
            sent := conn.sent ++ bytes
            unread := if conn.shut then conn.unread else conn.unread ++ bytes })
  | serverEnds {s k conn} (h : s.conns[k]? = some conn) :
      Step s (.serverEnds k) (s.setConn k { conn with ended := true })
  | serverLeaves {s k conn} (h : s.conns[k]? = some conn) :
      Step s (.serverLeaves k) (s.setConn k { conn with ended := true, gone := true })

/-- A session, before the client and the host have done anything. -/
def session (host : Host) (opened : List UInt32) : State where
  fromClient := []
  clientClosed := false
  opened := opened
  finned := []
  clientSent := []
  clientGot := []
  host := host
  toGuest := []
  toHost := []
  received := []
  loop := .waiting
  streams _ := none
  conns := []

/-- A session of `serve_port_forward`. -/
def spdySession : State := session (.collecting []) []

/-- A session of `handle_port_forward_stream`. -/
def plainSession : State := session (.connecting 0) [0, 0]

/-! ### Opening a session -/

/-- No reader writes a frame while the loop has to answer the host about its stream. -/
def Acked (s : State) : Event → Prop
  | .readerWrites k | .readerExits k =>
    ∀ conn status, s.conns[k]? = some conn → s.loop ≠ .acking conn.streamId status
  | _ => True

/-- The streams of the connections. -/
def State.connIds (s : State) : List UInt32 := s.conns.map (·.streamId)

/-- The host has not asked the guest. -/
def Host.Early (host : Host) : Prop := (∃ streamIds, host = .collecting streamIds) ∨ ∃ dataId, host = .connecting dataId

/-- The host has got an answer, or has returned. -/
def Host.Late (host : Host) : Prop := (∃ dataId task, host = .relaying dataId task) ∨ host = .returned

/-- How far a session is, by its host, the frames and the loop, and the streams of the connections. -/
inductive PhaseOf (stage : Host) (got forHost forGuest : List Frame) (round : Loop) (ids : List UInt32) : Prop where
  | before (host : stage.Early) (received : got = []) (toHost : forHost = []) (toGuest : forGuest = [])
      (loop : round = .waiting) (conns : ids = [])
  | asked {dataId port} (host : stage = .awaiting dataId) (received : got = []) (toHost : forHost = [])
      (toGuest : forGuest = [openFrame port]) (loop : round = .waiting) (conns : ids = [])
  | answering {dataId status} (host : stage = .awaiting dataId) (received : got = []) (toHost : forHost = [])
      (toGuest : forGuest = []) (loop : round = .acking portForwardStreamId status) (conns : ids ≠ [] → status = 0)
  | answered {dataId status rest} (host : stage = .awaiting dataId) (received : got = [])
      (toHost : forHost = ackFrame portForwardStreamId status :: rest) (toGuest : forGuest = [])
      (loop : ∀ streamId status, round ≠ .acking streamId status) (goes : round ≠ .returned)
      (conns : ids ≠ [] → status = 0)
  /-- The loop has returned without an answer. -/
  | dropped {dataId} (host : stage = .awaiting dataId) (received : got = []) (toHost : forHost = [])
      (toGuest : forGuest = []) (loop : round = .returned) (conns : ids = [])
  | settled {status rest} (host : stage.Late) (received : got = ackFrame portForwardStreamId status :: rest)
      (toGuest : ∀ frame ∈ forGuest, frame.kind ≠ .open) (loop : ∀ streamId status, round ≠ .acking streamId status)
      (conns : ids ≠ [] → status = 0)
  | left (host : stage = .returned) (received : got = []) (toGuest : forGuest = [])
      (loop : ∀ streamId status, round ≠ .acking streamId status) (conns : ids = [])

/-- How far a session is. -/
abbrev Phase (s : State) : Prop := PhaseOf s.host s.received s.toHost s.toGuest s.loop s.connIds

variable {s s' : State}

open State

variable {k : ℕ} {conn : Conn} {frame : Frame} {dataId : UInt32}

variable {conn' : Conn} {rest : List Frame} {task : ClientTask}

theorem connIds_set (h : s.conns[k]? = some conn) (hid : conn'.streamId = conn.streamId) :
    (s.setConn k conn').connIds = s.connIds := by
  refine ext_getElem? fun i => ?_
  simp only [connIds, setConn, List.getElem?_map]
  by_cases hi : k = i
  · subst hi
    rw [List.getElem?_set_self' , h]
    simp [hid]
  · rw [List.getElem?_set_ne hi]

theorem map_modify_of_eq {β : Type} (conns : List Conn) (k) {f : Conn → Conn} {g : Conn → β}
    (hf : ∀ conn, g (f conn) = g conn) : (conns.modify k f).map g = conns.map g := by
  induction conns generalizing k with
  | nil => simp
  | cons _ _ ih =>
    cases k with
    | zero => simp [hf]
    | succ k => simp [ih]

theorem closeStream_eq (s : State) (streamId : UInt32) :
    ∃ streams conns, s.closeStream streamId = { s with streams, conns } ∧
      conns.map (·.streamId) = s.connIds := by
  rw [closeStream]
  split
  · exact ⟨s.streams, s.conns, rfl, rfl⟩
  · exact ⟨_, _, rfl, map_modify_of_eq _ _ fun _ => rfl⟩

theorem Phase.of_setConn (h : Phase s) (hconn : s.conns[k]? = some conn) (hid : conn'.streamId = conn.streamId) :
    Phase (s.setConn k conn') := by
  rw [Phase, connIds_set hconn hid]
  exact h

theorem Phase.of_closeStream (h : Phase s) (streamId : UInt32) : Phase (s.closeStream streamId) := by
  obtain ⟨_, _, heq, hids⟩ := closeStream_eq s streamId
  rw [Phase, ← hids] at h
  rw [heq]
  exact h

/-- A frame other than a request to open a stream leaves the connections that are there. -/
theorem handle_eq (hkind : frame.kind ≠ .open) (answer : Answer) :
    ∃ streams conns loop, s.handle frame answer = { s with streams, conns, loop } ∧
      conns.map (·.streamId) = s.connIds ∧ (loop = s.loop ∨ loop = .closing frame.streamId) := by
  obtain ⟨_, _, heq, hids⟩ := closeStream_eq s frame.streamId
  unfold handle
  split
  next hopen => exact absurd hopen hkind
  · split
    · exact ⟨_, _, _, rfl, rfl, .inl rfl⟩
    · split
      · exact ⟨_, _, _, rfl, map_modify_of_eq _ _ fun _ => rfl, .inl rfl⟩
      · rw [heq]
        exact ⟨_, _, _, rfl, hids, .inr rfl⟩
  · rw [heq]
    exact ⟨_, _, _, rfl, hids, .inl rfl⟩
  · exact ⟨_, _, _, rfl, rfl, .inl rfl⟩
  · exact ⟨_, _, _, rfl, rfl, .inl rfl⟩

theorem Phase.of_write (h : Phase s) (frame) (hconns : s.connIds ≠ [])
    (hloop : ∀ status, s.loop ≠ .acking portForwardStreamId status) : Phase (s.write frame) := by
  rw [write]
  split_ifs with hhost
  · exact h
  cases h with
  | before _ _ _ _ _ conns | asked _ _ _ _ _ conns | dropped _ _ _ _ _ conns => exact absurd conns hconns
  | answering _ _ _ _ loop => exact absurd loop (hloop _)
  | answered host received toHost toGuest loop goes conns =>
    exact .answered host received (by rw [toHost]; rfl) toGuest loop goes conns
  | settled host received toGuest loop conns => exact .settled host received toGuest loop conns
  | left host => exact absurd host hhost

/-- What holds when no reader writes before the answer. -/
structure Opened (s : State) : Prop where
  phase : Phase s
  ids : ∀ streamId ∈ s.connIds, streamId = portForwardStreamId

theorem connIds_of_getElem? (h : s.conns[k]? = some conn) : conn.streamId ∈ s.connIds :=
  mem_map.mpr ⟨conn, mem_of_getElem? h, rfl⟩

variable (h : Opened s)

include h

theorem Opened.of_eq (hphase : Phase s') (hconns : s'.connIds = s.connIds) : Opened s' :=
  ⟨hphase, by rw [hconns]; exact h.ids⟩

theorem Opened.of_setConn (hconn : s.conns[k]? = some conn) (conn' : Conn)
    (hid : conn'.streamId = conn.streamId) : Opened (s.setConn k conn') :=
  h.of_eq (h.phase.of_setConn hconn hid) (connIds_set hconn hid)

theorem Opened.of_closeStream (streamId : UInt32) : Opened (s.closeStream streamId) := by
  obtain ⟨_, _, heq, hids⟩ := closeStream_eq s streamId
  refine h.of_eq (h.phase.of_closeStream streamId) ?_
  rw [heq]
  exact hids

omit h in
theorem connIds_write (s : State) (frame : Frame) : (s.write frame).connIds = s.connIds := by
  rw [write]
  split_ifs
  · rfl
  · rfl

theorem Opened.of_write (hconn : s.conns[k]? = some conn) (conn' : Conn) (hid : conn'.streamId = conn.streamId)
    (hloop : ∀ conn status, s.conns[k]? = some conn → s.loop ≠ .acking conn.streamId status) (frame : Frame) :
    Opened ((s.setConn k conn').write frame) := by
  have hids := connIds_set hconn hid
  have hmem := connIds_of_getElem? hconn
  have hone := h.ids _ hmem
  have hphase := h.phase.of_setConn hconn hid
  refine h.of_eq (hphase.of_write frame ?_ fun status => hone ▸ hloop conn status hconn) ?_
  · rw [hids]
    exact ne_nil_of_mem hmem
  · rw [connIds_write, hids]

theorem Opened.of_handle (htoGuest : s.toGuest = frame :: rest) (answer : Answer) :
    Opened (handle { s with toGuest := rest } frame answer) := by
  cases h.phase with
  | before _ _ _ toGuest _ _ | answering _ _ _ toGuest _ _ | answered _ _ _ toGuest _ _ _ | dropped _ _ _ toGuest _ _
  | left _ _ toGuest => rw [toGuest] at htoGuest; cases htoGuest
  | asked host received toHost toGuest _ conns =>
    -- the one request of the session
    rw [toGuest] at htoGuest
    cases htoGuest
    have hconns : s.conns = [] := map_eq_nil_iff.mp conns
    cases answer with
    | done =>
      refine ⟨.answering host received toHost rfl rfl fun _ => rfl, ?_⟩
      simp [handle, connIds, openFrame, hconns, Conn.new]
    | failed =>
      refine ⟨.answering host received toHost rfl rfl fun hne => absurd conns hne, ?_⟩
      exact h.ids
    | exhausted => exact ⟨.dropped host received toHost rfl rfl conns, h.ids⟩
  | settled host received toGuest loop conns =>
    rw [htoGuest] at toGuest
    obtain ⟨_, conns', _, heq, hids, hloop'⟩ :=
      handle_eq (s := { s with toGuest := rest }) (toGuest frame mem_cons_self) answer
    have hids : conns'.map (·.streamId) = s.connIds := hids
    rw [heq]
    rw [← hids] at conns
    refine ⟨.settled host received (fun f hf => toGuest f (mem_cons_of_mem _ hf)) ?_ conns, ?_⟩
    · rintro streamId status rfl
      rcases hloop' with hsame | hclosing
      · exact loop streamId status hsame.symm
      · cases hclosing
    · have hold := h.ids
      rw [← hids] at hold
      exact hold

omit h

theorem Phase.of_early (h : Phase s) (hhost : s.host.Early) :
    s.received = [] ∧ s.toHost = [] ∧ s.toGuest = [] ∧ s.loop = .waiting ∧ s.connIds = [] := by
  cases h with
  | before _ received toHost toGuest loop conns => exact ⟨received, toHost, toGuest, loop, conns⟩
  | _ => grind [Host.Early, Host.Late]

theorem Phase.of_awaiting (h : Phase s) (hhost : s.host = .awaiting dataId) (htoHost : s.toHost = frame :: rest) :
    s.received = [] ∧ s.toGuest = [] ∧ (∀ streamId status, s.loop ≠ .acking streamId status) ∧
      ∃ status, frame = ackFrame portForwardStreamId status ∧ (s.connIds ≠ [] → status = 0) := by
  cases h with
  | answered _ received toHost toGuest loop _ conns =>
    rw [toHost] at htoHost
    cases htoHost
    exact ⟨received, toGuest, loop, _, rfl, conns⟩
  | _ => grind [Host.Late]

/-- The host goes on, or returns, once it has the answer. -/
theorem Phase.of_late (h : Phase s) (hhost : s.host = .relaying dataId task) (hhost' : s'.host.Late)
    (hreceived : s.received <+: s'.received) (htoGuest : ∀ frame ∈ s'.toGuest, frame ∈ s.toGuest ∨ frame.kind ≠ .open)
    (hloop : s'.loop = s.loop) (hconns : s'.connIds = s.connIds) : Phase s' := by
  obtain ⟨htoGuest₀, hloop₀, status, rest, hreceived₀, hconns₀⟩ :
      (∀ frame ∈ s.toGuest, frame.kind ≠ .open) ∧ (∀ streamId status, s.loop ≠ .acking streamId status) ∧
        ∃ status rest, s.received = ackFrame portForwardStreamId status :: rest ∧ (s.connIds ≠ [] → status = 0) := by
    cases h with
    | settled _ received toGuest loop conns => exact ⟨toGuest, loop, _, _, received, conns⟩
    | _ => grind [Host.Early]
  obtain ⟨more, hmore⟩ := hreceived
  refine @PhaseOf.settled _ _ _ _ _ _ status (rest ++ more) hhost' ?_ (fun frame hframe => ?_) (hloop ▸ hloop₀)
    (hconns ▸ hconns₀)
  · rw [← hmore, hreceived₀]
    rfl
  · rcases htoGuest frame hframe with hold | hkind
    · exact htoGuest₀ frame hold
    · exact hkind

/-- `client_to_guest` writes nothing but data, and no empty frame. -/
theorem mem_relayClient {clientFrame} (h : frame ∈ (relayClient dataId clientFrame).1) :
    ∃ bytes, bytes ≠ [] ∧ frame = dataFrame portForwardStreamId bytes := by
  cases clientFrame with
  | data streamId _ bytes =>
    by_cases hid : streamId = dataId
    · by_cases hbytes : bytes = []
      · simp [relayClient, hid, hbytes] at h
      · simp only [relayClient, if_pos hid, if_neg hbytes, mem_singleton] at h
        exact ⟨bytes, hbytes, h⟩
    · simp [relayClient, hid] at h
  | _ => cases h

/-- **A step keeps this.** -/
theorem Opened.move (h : Opened s) {e} (hstep : Step s e s') (hok : Acked s e) : Opened s' := by
  have hphase := h.phase
  cases hstep with
  | clientSends _ _ | clientCloses => exact ⟨hphase, h.ids⟩
  | hostCollects hhost =>
    obtain ⟨received, toHost, toGuest, loop, conns⟩ := hphase.of_early (.inl ⟨_, hhost⟩)
    refine ⟨.before ?_ received toHost toGuest loop conns, h.ids⟩
    unfold Host.collect
    split
    · split
      · exact .inl ⟨_, rfl⟩
      · exact .inr ⟨_, rfl⟩
    · exact .inl ⟨_, rfl⟩
  | hostLeaves hhost =>
    obtain ⟨received, _, toGuest, loop, conns⟩ := hphase.of_early (.inl ⟨_, hhost⟩)
    exact ⟨.left rfl received toGuest (by simp [loop]) conns, h.ids⟩
  | hostConnects _ hhost =>
    obtain ⟨received, toHost, toGuest, loop, conns⟩ := hphase.of_early (.inr ⟨_, hhost⟩)
    exact ⟨.asked rfl received toHost (by rw [toGuest]; rfl) loop conns, h.ids⟩
  | hostFails _ hhost =>
    obtain ⟨received, _, toGuest, loop, conns⟩ := hphase.of_early (.inr ⟨_, hhost⟩)
    exact ⟨.left rfl received toGuest (by simp [loop]) conns, h.ids⟩
  | hostReadsAck hhost htoHost =>
    obtain ⟨received, toGuest, loop, _, rfl, conns⟩ := hphase.of_awaiting hhost htoHost
    refine ⟨.settled ?_ (by rw [received]; rfl) (by simp [toGuest]) loop conns, h.ids⟩
    split_ifs
    · exact .inl ⟨_, _, rfl⟩
    · exact .inr rfl
  | hostReadsEnd =>
    cases hphase with
    | dropped _ received _ toGuest loop conns =>
      exact ⟨.left rfl received toGuest (by simp [loop]) conns, h.ids⟩
    | settled _ received toGuest loop conns => exact ⟨.settled (.inr rfl) received toGuest loop conns, h.ids⟩
    | left _ received toGuest loop conns => exact ⟨.left rfl received toGuest loop conns, h.ids⟩
    | _ => simp_all
  | hostReadsClient hhost =>
    refine ⟨hphase.of_late hhost (.inl ⟨_, _, rfl⟩) (prefix_refl _) (fun f hf => ?_) rfl rfl, h.ids⟩
    rcases mem_append.mp hf with hold | hnew
    · exact .inl hold
    · obtain ⟨_, -, rfl⟩ := mem_relayClient hnew
      exact .inr (by simp [dataFrame])
  | hostReadsClosed hhost =>
    exact ⟨hphase.of_late hhost (.inl ⟨_, _, rfl⟩) (prefix_refl _) (fun _ => .inl) rfl rfl, h.ids⟩
  | hostSendsClose hhost =>
    refine ⟨hphase.of_late hhost (.inl ⟨_, _, rfl⟩) (prefix_refl _) (fun f hf => ?_) rfl rfl, h.ids⟩
    rcases mem_append.mp hf with hold | hnew
    · exact .inl hold
    · obtain rfl := mem_singleton.mp hnew
      exact .inr (by simp [closeFrame])
  | @hostReadsGuest _ task frame rest hhost _ =>
    have hprefix : s.received <+: s.received ++ [frame] := prefix_append _ _
    unfold relayGuest
    split_ifs
    · split
      case h_2 => exact h.of_eq (hphase.of_late hhost (.inr rfl) hprefix (fun _ => .inl) rfl rfl) rfl
      all_goals exact h.of_eq (hphase.of_late hhost (.inl ⟨_, _, hhost⟩) hprefix (fun _ => .inl) rfl rfl) rfl
    · exact h.of_eq (hphase.of_late hhost (.inl ⟨_, _, hhost⟩) hprefix (fun _ => .inl) rfl rfl) rfl
  | guestReads _ htoGuest => exact h.of_handle htoGuest _
  | guestAcks hloop =>
    cases hphase with
    | answering host received toHost toGuest loop conns =>
      rw [hloop] at loop
      cases loop
      have hne : s.host ≠ .returned := by simp [host]
      rw [write, if_neg hne, if_neg hne]
      exact h.of_eq (.answered host received (by rw [toHost]; rfl) toGuest (by simp) (by simp) conns) rfl
    | _ => simp_all
  | guestCloses =>
    refine h.of_eq ?_ (connIds_write s _)
    cases hphase with
    | answered host received toHost toGuest _ _ conns =>
      rw [write, if_neg (by simp [host])]
      exact .answered host received (by rw [toHost]; rfl) toGuest (by simp) (by simp) conns
    | settled host received toGuest _ conns =>
      rw [write]
      split_ifs
      · exact .settled host received toGuest (by simp) conns
      · exact .settled host received toGuest (by simp) conns
    | left host received toGuest _ conns =>
      rw [write, if_pos host]
      exact .left host received toGuest (by simp) conns
    | _ => simp_all
  | guestHangsUp =>
    cases hphase with
    | settled host received toGuest _ conns => exact h.of_eq (.settled host received toGuest (by simp) conns) rfl
    | left host received toGuest _ conns => exact h.of_eq (.left host received toGuest (by simp) conns) rfl
    | _ => simp_all [Host.Early]
  | readerReads hconn _ _ _ _ | readerEnds hconn _ _ _ | serverWrites hconn _ | serverEnds hconn | serverLeaves hconn =>
    exact h.of_setConn hconn _ rfl
  | readerWrites hconn _ | readerExits hconn _ =>
    refine h.of_write hconn _ ?_ hok _
    rfl
  | readerCloses hconn =>
    refine Opened.of_closeStream (h.of_setConn hconn _ ?_) _
    rfl

theorem opened_init {init} (hinit : init = spdySession ∨ init = plainSession) : Opened init := by
  rcases hinit with rfl | rfl
  · exact ⟨.before (.inl ⟨_, rfl⟩) rfl rfl rfl rfl rfl, by simp [connIds, spdySession, session]⟩
  · exact ⟨.before (.inr ⟨_, rfl⟩) rfl rfl rfl rfl rfl, by simp [connIds, plainSession, session]⟩

/-- **In every run in which no reader writes before the loop has answered, the first frame that the host receives is the
answer; and if the guest has connected to the server, it says so, and the host waits for it or has it.** -/
theorem opened_by_ack {init s : State} (hinit : init = spdySession ∨ init = plainSession)
    (hrun : Run Step Acked init s) :
    (∀ frame rest, s.received = frame :: rest → frame.kind = .openAck ∧ frame.streamId = portForwardStreamId) ∧
    (s.conns ≠ [] → (∃ dataId, s.host = .awaiting dataId) ∨
      ∃ frame rest, s.received = frame :: rest ∧ frame.openOk = true) := by
  have hopened : Opened s := hrun.induct (opened_init hinit) fun _ _ _ h hstep hok => h.move hstep hok
  have hne : s.conns ≠ [] → s.connIds ≠ [] := fun h hids => h (map_eq_nil_iff.mp hids)
  cases hopened.phase with
  | settled _ received _ _ conns =>
    refine ⟨fun frame rest hframe => ?_, fun h => .inr ⟨_, _, received, ?_⟩⟩
    · rw [received] at hframe
      cases hframe
      exact ⟨rfl, rfl⟩
    · rw [conns (hne h)]
      rfl
  | before _ received _ _ _ conns | left _ received _ _ conns =>
    exact ⟨by simp [received], fun h => absurd conns (hne h)⟩
  | asked host received _ _ _ _ | answering host received _ _ _ _ | answered host received _ _ _ _ _
  | dropped host received => exact ⟨by simp [received], fun _ => .inl ⟨_, host⟩⟩

/-- A server that speaks as soon as it has accepted, with a reader that waits for the answer: the session goes on. -/
theorem greeting_after_ack :
    ∃ s dataId task, Run Step Acked plainSession s ∧ s.toHost = [dataFrame portForwardStreamId [72]] ∧
      s.host = .relaying dataId task ∧ ∃ frame rest, s.received = frame :: rest ∧ frame.openOk = true := by
  have h₁ : Run Step Acked plainSession _ := .step (.hostConnects 80 true) .start (.hostConnects 80 rfl) (by trivial)
  have h₂ := h₁.step (.guestReads .done) (.guestReads rfl rfl nofun) (by trivial)
  have h₃ := h₂.step (.serverWrites 0 [72]) (.serverWrites rfl rfl) (by trivial)
  have h₄ := h₃.step (.readerReads 0 1) (.readerReads rfl rfl (by decide) (by decide) (by decide)) (by trivial)
  have h₅ := h₄.step .guestAcks (.guestAcks rfl) (by trivial)
  have h₆ := h₅.step (.readerWrites 0) (.readerWrites rfl rfl) (by rintro _ _ _ ⟨⟩)
  have h₇ := h₆.step .hostReadsAck (.hostReadsAck rfl rfl) (by trivial)
  refine ⟨_, _, _, h₇, rfl, rfl, ?_⟩
  exact ((opened_by_ack (.inr rfl) h₇).2 nofun).resolve_left nofun

/-- A reader that is faster than the loop: the host takes the server's greeting for a failed answer, and gives up. -/
theorem data_before_ack :
    ∃ s, Run Step (fun _ _ => True) plainSession s ∧ s.received = [dataFrame portForwardStreamId [72]] ∧
      s.conns ≠ [] ∧ s.host = .returned := by
  have h₁ : Run Step (fun _ _ => True) plainSession _ :=
    .step (.hostConnects 80 true) .start (.hostConnects 80 rfl) trivial
  have h₂ := h₁.step (.guestReads .done) (.guestReads rfl rfl nofun) trivial
  have h₃ := h₂.step (.serverWrites 0 [72]) (.serverWrites rfl rfl) trivial
  have h₄ := h₃.step (.readerReads 0 1) (.readerReads rfl rfl (by decide) (by decide) (by decide)) trivial
  have h₅ := h₄.step (.readerWrites 0) (.readerWrites rfl rfl) trivial
  have h₆ := h₅.step .hostReadsAck (.hostReadsAck rfl rfl) trivial
  exact ⟨_, h₆, rfl, nofun, rfl⟩

end A3sBox.Cri.PortForward
