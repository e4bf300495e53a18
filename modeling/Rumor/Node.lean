import Rumor.Api.Server
import Rumor.Config
import Rumor.Inbound
import Rumor.Network
import Rumor.Registry.Client

namespace Rumor

-- A time that the system's clock can show.
structure Instant where
  seconds : Int64
  nanos : Nat
  nanos_lt : nanos < 1000000000
deriving DecidableEq, Repr

namespace Instant

def ofNanos (n : Nat) : Instant :=
  ⟨.ofNat (n / 1000000000), n % 1000000000, Nat.mod_lt n (by decide)⟩

-- So many seconds later, unless the clock ends before.
def after? (t : Instant) (seconds : UInt64) : Option Instant :=
  let sum := t.seconds.toInt + seconds.toNat
  if sum ≤ Int64.maxValue.toInt then some { t with seconds := .ofInt sum } else none

end Instant

-- What a node meets outside: the digest its messages are stamped with, the
-- draws of chance that its steps use in turn, the network, and the registry.
structure World where
  digest : Digest
  draws : Nat → Draw
  routes : String → Route
  service : Registry.Service

-- What a step of a node does outside itself.
structure Effects where
  sends : List Send := []
  requests : List Registry.Request := []

def Effects.then (a b : Effects) : Effects :=
  ⟨a.sends ++ b.sends, a.requests ++ b.requests⟩

-- A running node. The interest map and the queue of notes that its engine uses
-- are those of its server.
structure Node where
  config : Config
  engine : Engine
  server : Api.Server
  clock : Nat
  drawn : Nat

namespace Node

def self (n : Node) : String :=
  n.engine.self

def base (n : Node) : String :=
  Registry.baseUrl n.config.registryUrl

-- Lets the engine take a step with a draw of its own.
def onEngine {α : Type} (w : World) (n : Node) (act : Draw → Engine → α × Engine) : α × Node :=
  let shared := { n.engine with interest := n.server.bridge.interest, notes := n.server.notes }
  let (a, engine) := act (w.draws n.drawn) shared
  (a, { n with
    engine
    server := { n.server with notes := engine.notes }
    drawn := n.drawn + 1 })

def call (w : World) (n : Node) (call : Registry.Call) :
    Except PeerError Registry.Call.Answer × Effects :=
  let (result, request) := w.service.call n.base call
  (result, { requests := request.toList })

-- Whether a message could be stamped or not, the node goes on.
def sendsOf : Except PeerError (List Send) → Effects
  | .ok sends => { sends }
  | .error _ => {}

def announceJoin (w : World) (n : Node) : Effects × Node :=
  n.onEngine w fun draw e =>
    let (result, e) := e.announceJoin w.digest draw
    (sendsOf result, e)

def announceLeave (w : World) (n : Node) : Effects × Node :=
  n.onEngine w fun draw e =>
    let (result, e) := e.announceLeave w.digest draw
    (sendsOf result, e)

-- The address told to the network: the configured one, unless that leaves the
-- choice of the port to the system.
def advertised (configured : String) (bound : Endpoint) : String :=
  if ":0".toList.isSuffixOf configured.toList then bound.text else configured

-- The most that a queue can be made for.
def maxQueue : Nat := UInt64.size / 8 - 1

-- Neither a queue for nothing can be made nor one for too much.
def fits (capacity : Nat) : Bool :=
  0 < capacity && capacity ≤ maxQueue

inductive Startup
  | running (n : Node)
  | failed (error : NodeError)
  | crashed

-- Takes over what the registry told.
def install (n : Node) : Registry.Call.Answer → Node
  | .done => n
  | .view view => { n with engine := { n.engine with peers := (n.engine.peers.apply view).2 } }

-- A node that cannot register, or learns of no peers to ask, does not start.
def join (w : World) (n : Node) : Startup × Effects :=
  match n.call w (.register n.self) with
  | (.error error, effects) => (.failed (.registry error), effects)
  | (.ok _, registered) =>
      match n.call w .view with
      | (.error error, fetched) => (.failed (.registry error), registered.then fetched)
      | (.ok answer, fetched) =>
          let (announced, n) := (n.install answer).announceJoin w
          (.running n, (registered.then fetched).then announced)

def check (config : Config) : Except NodeError Settings :=
  match config.fault? with
  | some fault => .error (.config fault)
  | none => config.settings.mapError NodeError.peer

-- Begins where both endpoints are bound; `peer` is that for peers.
def launch (w : World) (config : Config) (settings : Settings) (peer : Endpoint) :
    Startup × Effects :=
  if !fits config.noteQueue.toNat || !fits config.announceQueue.toNat then (.crashed, {})
  else
    let self := advertised config.peerAddress peer
    let server := Api.Server.start self config.announceQueue.toNat config.noteQueue.toNat
      config.noteQueue.toNat
    join w ⟨config, .start self settings server.notes, server, 0, 0⟩

-- `free` are the two ports that the system would choose.
def start (w : World) (network : Network) (free : Nat × Nat) (config : Config) :
    Startup × Effects :=
  match check config with
  | .error error => (.failed error, {})
  | .ok settings =>
      match network.listen free.1 config.peerAddress with
      | .error fault => (.failed (.bind config.peerAddress fault), {})
      | .ok peer =>
          match (network.use peer).listen free.2 config.apiAddress with
          | .error fault => (.failed (.bind config.apiAddress fault), {})
          | .ok _ => launch w config settings peer

-- Spreads the messages that applications announced.
def spread (w : World) (n : Node) : List Message → Effects × Node
  | [] => ({}, n)
  | m :: rest =>
      let (effects, n) := n.onEngine w fun draw e =>
        let (result, e) := e.originate w.digest draw m
        (sendsOf result, e)
      let (more, n) := n.spread w rest
      (effects.then more, n)

-- Works off the queues: announced messages are spread, and notes go out to the
-- applications that asked for them.
def settle (w : World) (n : Node) : Effects × Node :=
  let (messages, announces) := n.server.bridge.announces.drain
  let n := { n with server := { n.server with bridge := { n.server.bridge with announces } } }
  let (effects, n) := n.spread w messages
  (effects, { n with server := n.server.dispatch.flush })

-- The fresh id that a connection may need for an announced message.
def freshId (w : World) (n : Node) : MessageId × Node :=
  ((w.draws n.drawn).fresh, { n with drawn := n.drawn + 1 })

def onServer (w : World) (n : Node) (act : MessageId → Api.Server → Api.Server) : Effects × Node :=
  let (fresh, n) := n.freshId w
  settle w { n with server := act fresh n.server }

def accept (n : Node) (client : String) : Node :=
  { n with server := n.server.accept client }

def receive (w : World) (n : Node) (client : String) (bytes : Bytes) : Effects × Node :=
  n.onServer w fun fresh server => server.receive fresh client bytes

def finish (w : World) (n : Node) (client : String) : Effects × Node :=
  n.onServer w fun fresh server => server.finish fresh client

def readTimeout (n : Node) : Nat :=
  1000 * n.config.readSeconds.toNat

-- A peer's connection. Nothing is said back, whatever it brings.
def peer (w : World) (n : Node) (arrival : Arrival) : Effects × Node :=
  match arrival.message n.readTimeout with
  | .error _ => ({}, n)
  | .ok m =>
      let (handled, n) := n.onEngine w fun draw e =>
        let h := e.handle w.digest draw m
        (h.sends, h.engine)
      let (more, n) := n.settle w
      (({ sends := handled } : Effects).then more, n)

-- Whether a connection that brought `bytes` and then nothing is closed after so
-- many seconds.
def givesUp (n : Node) (bytes : Bytes) (seconds : Nat) : Bool :=
  ((⟨[⟨0, bytes⟩], false⟩ : Arrival).bytes? n.readTimeout).isSome || n.readTimeout ≤ 1000 * seconds

def refresh (w : World) (n : Node) : Except PeerError (Option String) × Effects × Node :=
  let (asked, n) := n.onEngine w fun draw e =>
    let asked := e.refresh w.digest draw w.routes
    ((asked.result, asked.sends), asked.engine)
  (asked.1, { sends := asked.2 }, n)

-- What a node does again and again.
inductive Ticker
  | list
  | heartbeat
  | view
deriving DecidableEq, Repr

def tick (w : World) (n : Node) : Ticker → Effects × Node
  | .list => (n.refresh w).2
  | .heartbeat => ((n.call w (.heartbeat n.self)).2, n)
  | .view =>
      match n.call w .view with
      | (.ok answer, effects) => (effects, n.install answer)
      | (.error _, effects) => (effects, n)

def periods (c : Config) : List (Ticker × UInt64) :=
  [(.list, c.listSeconds), (.heartbeat, c.heartbeatSeconds)] ++
    (c.refreshSeconds.map fun s => (Ticker.view, s)).toList

-- A ticker without a period is not begun, nor one that would first fire when the
-- clock has ended.
def firstFiring? (now : Instant) (period : UInt64) : Option Instant :=
  if period = 0 then none else now.after? period

-- The times up to `till` at which a ticker fires that fires every `period`
-- seconds, after those up to `since`.
def firings (since till period : Nat) : List Nat :=
  if period = 0 then []
  else
    let first := since / period
    (List.range (till / period - first)).map fun k => (first + k + 1) * period

-- All firings up to a time, in the order of their times.
def schedule (c : Config) (since till : Nat) : List Ticker :=
  let all := (periods c).flatMap fun (ticker, period) =>
    (firings since till period.toNat).map fun time => (time, ticker)
  (all.mergeSort fun a b => a.1 ≤ b.1).map (·.2)

def runAll (w : World) (n : Node) : List Ticker → Effects × Node
  | [] => ({}, n)
  | ticker :: rest =>
      let (effects, n) := n.tick w ticker
      let (more, n) := n.runAll w rest
      (effects.then more, n)

-- Time passes.
def advance (w : World) (n : Node) (seconds : Nat) : Effects × Node :=
  let till := n.clock + seconds
  let (effects, n) := n.runAll w (schedule n.config n.clock till)
  (effects, { n with clock := till })

-- Every connection is closed; leaving the network and the registry is tried
-- and not insisted on.
def shutdown (w : World) (n : Node) : Effects × Node :=
  let n := { n with server := n.server.shutdown }
  let (left, n) := n.announceLeave w
  (left.then (n.call w (.deregister n.self)).2, n)

end Node

end Rumor
