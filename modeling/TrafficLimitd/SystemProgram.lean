import TrafficLimitd.ConnectionVerdict
import TrafficLimitd.DaemonConfinement
import TrafficLimitd.HandlerHearing
import TrafficLimitd.LimiterIsolation

set_option autoImplicit false

/- Everything at work together: the clients, the daemon that they are connected to, and
the classifier that looks their packets up in the daemon's map. A connection is a
SEQPACKET socket, which keeps the order and the boundaries of the datagrams in both
directions. At its other end there may be any process; only of one that runs client.c is
it known what it sends. -/
namespace TrafficLimitd.System

open Coroutine
open Handler (Effect Response Awaited Host Pid)
open Daemon (TaskId)
open Limiter (Action Arrival)

/-- The other end of a connection. `options` is the command line if client.c runs there,
and `client` is where it is once it has sent its request. The datagrams on their way are
in `outbox` towards the daemon and in `inbox` from it. -/
structure Peer where
  options : Option Client.Options
  client : Option Client.State
  outbox : List (List UInt8)
  inbox : List (List UInt8)

namespace Peer

/-- After `connect`. -/
def connected (options : Option Client.Options) : Peer :=
  { options := options, client := none, outbox := [], inbox := [] }

/-- `send` of the request. -/
def send (peer : Peer) : Option Peer :=
  match peer.options, peer.client with
  | some options, none =>
      some { peer with client := some .start, outbox := peer.outbox ++ [Client.sendBuf options] }
  | _, _ => none

/-- What `recv` with a buffer returns of a datagram, and leaves in the buffer. -/
def received (buf datagram : List UInt8) : Int × List UInt8 :=
  let data := datagram.take buf.length
  (data.length, data ++ buf.drop data.length)

/-- A read of the daemon returns the next datagram, the end of the connection or an
error. -/
def answers (peer : Peer) : (effect : Effect) → Response effect → Bool
  | .streamIo .read buf _, (answer : Awaited (Int × List UInt8)) =>
      match answer with
      | .cancelled => true
      | .value result =>
          peer.options.isNone || decide (result.1 ≤ 0) ||
            peer.outbox.head?.any fun datagram => decide (result = received buf datagram)
  | _, _ => true

/-- A datagram that was read is gone. -/
def after (peer : Peer) : (effect : Effect) → Response effect → Peer
  | .streamIo .read _ _, (answer : Awaited (Int × List UInt8)) =>
      match answer with
      | .cancelled => peer
      | .value result => if 0 < result.1 then { peer with outbox := peer.outbox.tail } else peer
  | _, _ => peer

/-- The two `recv` of the client return what is next in the socket, the first one its
length and the second one as much as it has room for; or the end of the connection, or an
error. -/
def gives (peer : Peer) (client : Client.State) : Client.Label → Bool
  | .peeked (.ok len) =>
      decide (len = 0) || peer.inbox.head?.any fun datagram => decide (datagram.length = len)
  | .read (.ok buf) =>
      match client.phase with
      | .reading len =>
          decide (buf = []) || peer.inbox.head?.any fun datagram => decide (datagram.take len = buf)
      | _ => false
  | _ => true

/-- A step of the client. -/
def run (peer : Peer) (label : Client.Label) : Option Peer :=
  match peer.options, peer.client with
  | some options, some client =>
      if peer.gives client label then
        (Client.step options client label).map fun next =>
          { peer with
            client := some next
            inbox := if label.datagram.isSome then peer.inbox.tail else peer.inbox }
      else none
  | _, _ => none

end Peer

/-- The peer of a task has its number. -/
structure State where
  daemon : Daemon.State
  peers : List Peer
  priv : Limiter.Evicting.PrivMap

def start : State :=
  { daemon := Daemon.start, peers := [],
    priv := .empty _ _ (Daemon.mapCapacity Daemon.maxNrTasks) }

/-- `transmit` is the dispatch in which `msg_stream_handler` writes a datagram and wakes
the task that waits for this. -/
inductive Label
  | daemon (label : Daemon.Label)
  | connect (pid : Pid) (options : Option Client.Options)
  | send (id : TaskId)
  | transmit (id : TaskId)
  | client (id : TaskId) (label : Client.Label)
  | packet (arrival : Arrival)

namespace State

/-- The two maps as the classifier finds them. -/
def maps (state : State) : Limiter.Evicting.Maps := ⟨state.daemon.roster.limits, state.priv⟩

def setPeer (state : State) (id : TaskId) (peer : Peer) : State :=
  { state with peers := state.peers.set id peer }

/-- The task makes a call, and the socket answers if it is a read. -/
def perform (host : Host) (state : State) (event : Event Effect Response) : Option State :=
  state.daemon.current.bind fun id =>
    state.peers[id]?.bind fun peer =>
      if peer.answers event.effect event.answer then
        (Daemon.step host state.daemon (.perform event)).map fun daemon =>
          { state.setPeer id (peer.after event.effect event.answer) with daemon := daemon }
      else none

def connect (host : Host) (state : State) (pid : Pid) (options : Option Client.Options) :
    Option State :=
  (Daemon.step host state.daemon (.accept pid)).map fun daemon =>
    { state with daemon := daemon, peers := state.peers ++ [.connected options] }

def send (state : State) (id : TaskId) : Option State :=
  state.peers[id]?.bind fun peer => peer.send.map fun sent => state.setPeer id sent

def transmit (host : Host) (state : State) (id : TaskId) : Option State :=
  match state.daemon.pending id, state.peers[id]? with
  | some (.streamIo .write buf _), some peer =>
      if buf = [] then none
      else
        (Daemon.step host state.daemon (.reply id)).map fun daemon =>
          { state.setPeer id { peer with inbox := peer.inbox ++ [buf] } with daemon := daemon }
  | _, _ => none

def client (state : State) (id : TaskId) (label : Client.Label) : Option State :=
  state.peers[id]?.bind fun peer => (peer.run label).map fun moved => state.setPeer id moved

/-- `cgroup_rate_limit` on one packet: the maps after it and its answer. -/
def classify (state : State) (arrival : Arrival) : Limiter.Evicting.Maps × Action :=
  Limiter.Evicting.cgroupRateLimit state.maps arrival.now arrival.skb

def packet (state : State) (arrival : Arrival) : State :=
  { state with priv := (state.classify arrival).1.priv }

end State

def step (host : Host) (state : State) : Label → Option State
  | .daemon (.perform event) => state.perform host event
  | .daemon (.accept _) => none
  | .daemon label =>
      (Daemon.step host state.daemon label).map fun daemon => { state with daemon := daemon }
  | .connect pid options => state.connect host pid options
  | .send id => state.send id
  | .transmit id => state.transmit host id
  | .client id label => state.client id label
  | .packet arrival => some (state.packet arrival)

/-- The packets of a run and how they were answered. -/
def traffic (host : Host) : State → List Label → List (Arrival × Action)
  | _, [] => []
  | state, label :: rest =>
      let later := (step host state label).elim [] fun next => traffic host next rest
      match label with
      | .packet arrival => (arrival, (state.classify arrival).2) :: later
      | _ => later

end TrafficLimitd.System
