import Rumor.Cache
import Rumor.Error
import Rumor.Interest
import Rumor.Message
import Rumor.Peers
import Rumor.Queue
import Rumor.Record

namespace Rumor

structure Settings where
  fanout : Nat := 2
  degree : Nat := 30
  cacheSize : Nat := 1000
  difficulty : Difficulty := .none
  joinTtl : Int32 := 5
deriving DecidableEq, Repr

-- A message and the address it is handed to the network for.
structure Send where
  target : String
  message : Message
deriving DecidableEq, Repr

-- The bytes put on a connection of its own for `m`.
def Route.send (route : Route) (address : String) (m : Message) : Except PeerError Bytes :=
  match route with
  | .connected => .ok (Record.encode m)
  | .failed fault => .error (.connection address fault)

-- What is told of a message that was spread: its id, and whom it was handed over for.
structure Broadcast where
  id : MessageId
  targets : List String
deriving DecidableEq, Repr

def Broadcast.empty (id : MessageId) : Broadcast :=
  ⟨id, []⟩

structure Flood where
  told : Broadcast
  sends : List Send
deriving DecidableEq, Repr

-- What a step takes from chance: an order of the peers, an id for a message
-- that the node makes, and a place in the list of seeds.
structure Draw where
  shuffle : List String → List String
  shuffle_perm : ∀ list, (shuffle list).Perm list
  fresh : MessageId
  pick : Nat

namespace Draw

-- Lists of bytes as numbers, the first byte weighing most.
def weight (bytes : Bytes) : Nat :=
  bytes.foldl (fun n b => 256 * n + b.toNat) 0

-- A draw that hangs on `seed` alone: peers stand in the order of digests that
-- nobody can tell who does not know the seed.
def ofSeed (H : Digest) (seed : Bytes) : Draw where
  shuffle list := list.mergeSort fun a b =>
    weight (H.hash (seed ++ Utf8.encode a)) ≤ weight (H.hash (seed ++ Utf8.encode b))
  shuffle_perm list := list.mergeSort_perm _
  fresh := .ofNat (weight ((H.hash (seed ++ [0])).take 8))
  pick := weight (H.hash (seed ++ [1]))

end Draw

inductive Outcome
  | invalidStamp
  | malformed
  | duplicate
  | processed (relayedTo : List String)
deriving DecidableEq, Repr

-- One node's part in spreading messages.
structure Engine where
  settings : Settings
  peers : Peers
  cache : Cache
  interest : Interest
  notes : Queue Note
deriving DecidableEq

namespace Engine

def start (self : String) (settings : Settings) (notes : Queue Note) : Engine where
  settings := settings
  peers := .empty self settings.degree
  cache := .empty settings.cacheSize
  interest := .empty
  notes := notes

def self (e : Engine) : String :=
  e.peers.self

def remember (e : Engine) (id : MessageId) : Bool × Engine :=
  let (new, cache) := e.cache.insert id
  (new, { e with cache })

def stamp (H : Digest) (e : Engine) (m : Message) : Except PeerError Message :=
  match Stamp.stamp? H e.settings.difficulty m with
  | some m => .ok m
  | none => .error (.noNonce e.settings.difficulty)

-- Hands `m` to at most `fanout` peers, in this node's name. The stamp covers
-- the sender, so it comes after it. A message whose hops are used up goes
-- nowhere.
def flood (H : Digest) (draw : Draw) (m : Message) (e : Engine) : Except PeerError Flood :=
  if m.ttl < 1 then .ok ⟨.empty m.id, []⟩
  else
    match e.stamp H { m with sender := e.self } with
    | .error error => .error error
    | .ok stamped =>
        let targets := (draw.shuffle e.peers.members).take e.settings.fanout
        .ok ⟨⟨m.id, targets⟩, targets.map fun target => ⟨target, stamped⟩⟩

def gossip (H : Digest) (draw : Draw) (m : Message) (e : Engine) : Except PeerError (List Send) :=
  (e.flood H draw m).map (·.sends)

-- Spreads a message made here. Its id is remembered first, so that its echo is
-- taken for a duplicate.
def originate (H : Digest) (draw : Draw) (m : Message) (e : Engine) :
    Except PeerError (List Send) × Engine :=
  let (_, e) := e.remember m.id
  (e.gossip H draw m, e)

def announceJoin (H : Digest) (draw : Draw) (e : Engine) : Except PeerError (List Send) × Engine :=
  e.originate H draw (.join draw.fresh e.self e.settings.joinTtl)

def announceLeave (H : Digest) (draw : Draw) (e : Engine) : Except PeerError (List Send) × Engine :=
  e.originate H draw (.leave draw.fresh e.self e.settings.joinTtl)

structure Asked (α : Type) where
  result : Except PeerError α
  sends : List Send
  engine : Engine

-- Asks `seed` for its peers. Unlike a flood, this is told whether the message
-- could be handed over, which `routes` decides for each address.
def requestList (H : Digest) (draw : Draw) (routes : String → Route) (seed : String) (e : Engine) :
    Asked Unit :=
  let m := Message.listRequest draw.fresh e.self
  let (_, e) := e.remember m.id
  match e.stamp H m with
  | .error error => ⟨.error error, [], e⟩
  | .ok m => ⟨((routes seed).send seed m).map fun _ => (), [⟨seed, m⟩], e⟩

-- Asks a seed picked by chance; the seed that was asked, if any is known.
def refresh (H : Digest) (draw : Draw) (routes : String → Route) (e : Engine) :
    Asked (Option String) :=
  match e.peers.seed? draw.pick with
  | none => ⟨.ok none, [], e⟩
  | some seed =>
      let asked := e.requestList H draw routes seed
      ⟨asked.result.map fun _ => some seed, asked.sends, asked.engine⟩

-- A note that finds no room is lost; the message spreads all the same.
def deliver (datatype : UInt16) (m : Message) (e : Engine) : Engine :=
  if e.interest.has datatype then
    { e with notes := (e.notes.offer ⟨m.id, datatype, m.payload⟩).2 }
  else e

def onJoin (m : Message) (e : Engine) : Engine :=
  match m.address with
  | .error _ => e
  | .ok address =>
      if address = e.self then e else { e with peers := (e.peers.add address).2.bound.2 }

def onLeave (m : Message) (e : Engine) : Engine :=
  match m.address with
  | .error _ => e
  | .ok address => { e with peers := (e.peers.remove address).2 }

-- Answers the sender with the peers known here.
def onListRequest (H : Digest) (draw : Draw) (m : Message) (e : Engine) : List Send × Engine :=
  if m.sender = "" ∨ m.sender = e.self then ([], e)
  else
    let reply := Message.listResponse draw.fresh e.self e.peers.members
    let (_, e) := e.remember reply.id
    match e.stamp H reply with
    | .error _ => ([], e)
    | .ok reply => ([⟨m.sender, reply⟩], e)

def onListResponse (m : Message) (e : Engine) : Engine :=
  match m.addresses with
  | .error _ => e
  | .ok list => { e with peers := (e.peers.merge list).2.bound.2 }

def dispatch (H : Digest) (draw : Draw) (kind : Kind) (m : Message) (e : Engine) :
    List Send × Engine :=
  match kind with
  | .data datatype => ([], e.deliver datatype m)
  | .join => ([], e.onJoin m)
  | .leave => ([], e.onLeave m)
  | .listRequest => e.onListRequest H draw m
  | .listResponse => ([], e.onListResponse m)

-- One hop less, down to the least number there is.
def spend (m : Message) : Message :=
  if m.ttl = Int32.minValue then m else { m with ttl := m.ttl - 1 }

-- Lists of peers are between two nodes, whatever hops they claim.
def isFlooded : Kind → Bool
  | .listRequest | .listResponse => false
  | _ => true

structure Handled where
  outcome : Outcome
  sends : List Send
  engine : Engine

-- Takes in a message from a peer. One whose stamp or kind is wrong leaves no
-- trace, and a known id none either.
def handle (H : Digest) (draw : Draw) (m : Message) (e : Engine) : Handled :=
  if !Stamp.isValid H e.settings.difficulty m then ⟨.invalidStamp, [], e⟩
  else
    match m.kind? with
    | none => ⟨.malformed, [], e⟩
    | some kind =>
        match e.remember m.id with
        | (false, e) => ⟨.duplicate, [], e⟩
        | (true, e) =>
            let (replies, e) := e.dispatch H draw kind m
            if isFlooded kind then
              match e.flood H draw (spend m) with
              | .error _ => ⟨.processed [], replies, e⟩
              | .ok relays => ⟨.processed relays.told.targets, replies ++ relays.sends, e⟩
            else ⟨.processed [], replies, e⟩

end Engine

end Rumor
