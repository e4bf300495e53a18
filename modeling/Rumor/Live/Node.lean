import Rumor.Digest.Sha256
import Rumor.Engine
import Rumor.Live.Link
import Rumor.Node
import Rumor.Registry.Exchange
import Std.Async.Signal
import Std.Sync.CancellationToken
import Std.Sync.Channel
import Std.Sync.Mutex

namespace Rumor.Live

open Std.Async

-- An application's connection. What is put into `out` is written in order, and
-- the connection is closed behind it.
structure Client where
  name : String
  out : Std.CloseableChannel Bytes

structure State where
  node : Node
  clients : List Client
  opened : Nat

structure Running where
  state : Std.Mutex State
  seed : Bytes
  stopped : Std.CancellationToken

-- What is waited for, unless the node stops first.
def Running.await {α : Type} (r : Running) (wanted : Selector α) : IO (Option α) :=
  (Selectable.one #[
    .case wanted fun a => pure (some a),
    .case r.stopped.selector fun _ => pure none]).block

def registryWait : Nat := 10000

-- Asks the registry. A request that cannot be made or is not answered in time
-- has no reply.
def ask (base : String) (call : Registry.Call) : IO Registry.Reply := do
  match call.request base with
  | .error _ => return .dropped
  | .ok request =>
      let read ← attempt do
        match ← dial request.url.address with
        | .error _ => return none
        | .ok link =>
            write link request.bytes
            readTo link answerLimit (some ((← IO.monoMsNow) + registryWait)) []
      match read with
      | .ok (some bytes) => return .ofBytes bytes
      | _ => return .dropped

-- The outside as a node meets it whose calls were answered beforehand.
def worldOf (seed : Bytes) (base : String) (reply : Registry.Request → Registry.Reply) : World where
  digest := Digest.sha256
  draws n := .ofSeed Digest.sha256 (seed ++ Utf8.encode (Decimal.ofNat n))
  routes _ := .connected
  service :=
    let authority := ((Registry.Call.view.request base).toOption.map (·.url.authority)).getD ""
    ⟨authority, .connected, reply⟩

-- Every message goes over a connection of its own; one that cannot be made is
-- given up.
def deliver (sends : List Send) : IO (List (Task (Except IO.Error Unit))) :=
  sends.mapM fun send => IO.asTask (do
    match ← dial send.target with
    | .error _ => pure ()
    | .ok link =>
        write link (Record.encode send.message)
        finish link) .dedicated

-- Hands out what applications have got, and lets go of those whose connections
-- are closed.
def handOut (node : Node) : List Client → IO (List Client × Node)
  | [] => return ([], { node with server := node.server.forget })
  | client :: rest => do
      match node.server.news client.name with
      | none => handOut node rest
      | some (news, server) =>
          if !news.bytes.isEmpty then discard (client.out.send news.bytes)
          let (clients, node) ← handOut { node with server } rest
          if news.closed then
            discard client.out.close.toBaseIO
            return (clients, node)
          else return (client :: clients, node)

-- Lets the node take one step.
def Running.step (r : Running) (reply : Registry.Reply) (act : World → Node → Effects × Node) :
    IO (List (Task (Except IO.Error Unit))) := do
  let effects ← r.state.atomically do
    let s ← get
    let (effects, node) := act (worldOf r.seed s.node.base fun _ => reply) s.node
    let (clients, node) ← (handOut node s.clients : IO _)
    set { s with clients, node }
    return effects
  deliver effects.sends

def Running.peek {α : Type} (r : Running) (look : Node → α) : IO α :=
  r.state.atomically do return look (← get).node

partial def writeOut (link : Link) (out : Std.CloseableChannel Bytes) : IO Unit := do
  match ← out.sync.recv with
  | none => finish link
  | some bytes =>
      quietly (write link bytes)
      writeOut link out

partial def readIn (r : Running) (link : Link) (name : String) : IO Unit := do
  let got ← attempt (r.await (link.recvSelector 65536))
  match (got.toOption.bind id).bind id |>.elim [] fun b => b.toList with
  | [] => discard (r.step .dropped fun w n => n.finish w name)
  | bytes =>
      discard (r.step .dropped fun w n => n.receive w name bytes)
      readIn r link name

partial def serveApi (r : Running) (server : TCP.Socket.Server) : IO Unit := do
  let some link ← r.await server.acceptSelector | return
  let out ← Std.CloseableChannel.new none
  let name ← r.state.atomically do
    let s ← get
    let name := Decimal.ofNat s.opened
    set { s with
      node := s.node.accept name
      clients := ⟨name, out⟩ :: s.clients
      opened := s.opened + 1 }
    return name
  aside (writeOut link out)
  aside (readIn r link name)
  serveApi r server

partial def servePeers (r : Running) (server : TCP.Socket.Server) : IO Unit := do
  let some link ← r.await server.acceptSelector | return
  aside do
    let wait ← r.peek Node.readTimeout
    let read ← readTo link (Record.maxSize + 1) (some ((← IO.monoMsNow) + wait)) []
    match read with
    | none => pure ()
    | some bytes => discard (r.step .dropped fun w n => n.peer w ⟨[⟨0, bytes⟩], true⟩)
  servePeers r server

def callOf (n : Node) : Node.Ticker → Option Registry.Call
  | .list => none
  | .heartbeat => some (.heartbeat n.self)
  | .view => some .view

partial def every (r : Running) (seconds : Nat) (act : IO Unit) : IO Unit := do
  let some _ ← r.await (← (Selector.sleep (.ofNat (1000 * seconds))).block) | return
  quietly act
  every r seconds act

def Running.tick (r : Running) (ticker : Node.Ticker) : IO Unit := do
  let (base, call) ← r.peek fun n => (n.base, callOf n ticker)
  let reply ← match call with
    | none => pure .dropped
    | some call => ask base call
  discard (r.step reply fun w n => n.tick w ticker)

def Running.stop (r : Running) : IO Unit := do
  r.stopped.cancel
  let sent ← r.step .dropped fun w n => n.shutdown w
  for task in sent do
    discard (IO.wait task)
  let (base, self) ← r.peek fun n => (n.base, n.self)
  discard (ask base (.deregister self))

-- Asks for what a node needs to begin, and stops at the first call without an
-- answer.
def introduce (base self : String) : IO (Registry.Reply × Registry.Reply) := do
  let registered ← ask base (.register self)
  if registered = .dropped then return (.dropped, .dropped)
  return (registered, ← ask base .view)

def runUntilStopped (r : Running) (peers api : TCP.Socket.Server) (c : Config) : IO Unit := do
  aside (servePeers r peers)
  aside (serveApi r api)
  let now := Instant.ofNanos (← IO.monoNanosNow)
  for (ticker, period) in Node.periods c do
    if (Node.firstFiring? now period).isSome then
      aside (every r period.toNat (r.tick ticker))
  let stopped ← (← Signal.Waiter.mk .sigint false).wait
  discard stopped.block
  r.stop

-- Runs a node until it is interrupted. What it could not begin for, if so.
def runNode (c : Config) : IO (Option NodeError) := do
  match Node.check c with
  | .error error => return some error
  | .ok settings =>
      match ← listen c.peerAddress with
      | .error fault => return some (.bind c.peerAddress fault)
      | .ok (peers, bound) =>
          match ← listen c.apiAddress with
          | .error fault => return some (.bind c.apiAddress fault)
          | .ok (api, _) =>
              let seed := (← IO.getRandomBytes 32).toList
              let base := Registry.baseUrl c.registryUrl
              let (registered, view) ← introduce base (Node.advertised c.peerAddress bound)
              let world := worldOf seed base fun request =>
                if request.method = "GET" then view else registered
              match Node.launch world c settings bound with
              | (.failed error, _) => return some error
              | (.crashed, _) => throw (IO.userError "queue sizes are too large")
              | (.running node, effects) =>
                  discard (deliver effects.sends)
                  let state ← Std.Mutex.new ⟨node, [], 0⟩
                  runUntilStopped ⟨state, seed, ← Std.CancellationToken.new⟩ peers api c
                  return none

end Rumor.Live
