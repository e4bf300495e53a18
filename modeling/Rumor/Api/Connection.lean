import Rumor.Frame
import Rumor.Mailboxes
import Rumor.Message

namespace Rumor.Api

-- Why a request is turned down.
inductive Rejection
  | reserved (datatype : UInt16)
  | noReceiver
  | notForServer
  | wire (error : WireError)
deriving DecidableEq, Repr

def Rejection.message : Rejection → String
  | .reserved datatype => s!"datatype {Decimal.ofNat datatype.toNat} is reserved"
  | .noReceiver => "no receiver available"
  | .notForServer => "notification is a server-to-client message"
  | .wire error => error.message

def Rejection.line (r : Rejection) : Bytes :=
  Utf8.encode r.message ++ [0x0A]

-- What all connections of a node share: its address, the messages that wait to
-- be spread, who asked for what, and the queues of those who did.
structure Bridge where
  self : String
  announces : Queue Message
  interest : Interest
  boxes : Mailboxes
  noteQueue : Nat
deriving DecidableEq, Repr

-- A queue for notes has room for one at least.
def Bridge.start (self : String) (announceQueue noteQueue : Nat) : Bridge :=
  ⟨self, .empty announceQueue, .empty, .empty, max noteQueue 1⟩

-- One application's connection, told apart by its name. Its buffer holds what
-- was received and not yet understood.
structure Connection where
  name : String
  buffer : Bytes
  subscribed : Bool
  isOpen : Bool
deriving DecidableEq, Repr

def Connection.start (name : String) : Connection :=
  ⟨name, [], false, true⟩

inductive Next
  | go
  | close
  | reply (r : Rejection)
deriving DecidableEq, Repr

structure Turn where
  next : Next
  connection : Connection
  bridge : Bridge
deriving DecidableEq, Repr

-- `fresh` is the id of the message that an announce makes.
def Bridge.announce (b : Bridge) (fresh : MessageId) (ttl : UInt8) (datatype : UInt16)
    (payload : Bytes) : Next × Bridge :=
  if Kind.reserved datatype then (.reply (.reserved datatype), b)
  else
    let m := Message.data fresh b.self datatype payload (.ofNat ttl.toNat)
    match b.announces.offer m with
    | (.taken, announces) => (.close, { b with announces })
    | _ => (.reply .noReceiver, b)

def Connection.onFrame (fresh : MessageId) (f : Frame) (c : Connection) (b : Bridge) : Turn :=
  match f with
  | .announce ttl _ datatype payload =>
      let (next, b) := b.announce fresh ttl datatype payload
      ⟨next, c, b⟩
  | .notify _ datatype =>
      if Kind.reserved datatype then ⟨.reply (.reserved datatype), c, b⟩
      else
        ⟨.go, { c with subscribed := true }, { b with
          interest := b.interest.subscribe c.name datatype c.name
          boxes := b.boxes.ensure c.name b.noteQueue }⟩
  | .validation .. => ⟨.go, c, b⟩
  | .notification .. => ⟨.reply .notForServer, c, b⟩

-- What the server wrote, and the state that it left.
structure Reaction where
  written : Bytes
  connection : Connection
  bridge : Bridge
deriving DecidableEq, Repr

-- A subscription lives no longer than its connection.
def Connection.close (c : Connection) (b : Bridge) : Connection × Bridge :=
  let closed := { c with buffer := [], subscribed := false, isOpen := false }
  if c.subscribed then
    (closed, { b with
      interest := (b.interest.unsubscribe c.name).2
      boxes := b.boxes.erase c.name })
  else (closed, b)

def Connection.ended (written : Bytes) (c : Connection) (b : Bridge) : Reaction :=
  let (c, b) := c.close b
  ⟨written, c, b⟩

def Connection.handle (fresh : MessageId) (f : Frame) (c : Connection) (b : Bridge) : Reaction :=
  let turn := c.onFrame fresh f b
  match turn.next with
  | .go => ⟨[], turn.connection, turn.bridge⟩
  | .close => turn.connection.ended [] turn.bridge
  | .reply r => turn.connection.ended r.line turn.bridge

-- Handles frames in order up to the first that ends the connection. Nothing is
-- written before that.
def Connection.handleAll (fresh : MessageId) (c : Connection) (b : Bridge) : List Frame → Reaction
  | [] => ⟨[], c, b⟩
  | f :: rest =>
      let r := c.handle fresh f b
      if r.connection.isOpen then r.connection.handleAll fresh r.bridge rest else r

-- Acts on frames taken from the buffer, and then on the fault behind them.
def Connection.onTaken (fresh : MessageId) (taken : Frame.Taken) (c : Connection) (b : Bridge) :
    Reaction :=
  let r := c.handleAll fresh b taken.frames
  if r.connection.isOpen then
    match taken.error with
    | some error => r.connection.ended (Rejection.wire error).line r.bridge
    | none => { r with connection := { r.connection with buffer := taken.rest } }
  else r

-- Bytes that come after the server closed are not looked at.
def Connection.receive (fresh : MessageId) (bytes : Bytes) (c : Connection) (b : Bridge) :
    Reaction :=
  if c.isOpen then c.onTaken fresh (Frame.takeAll (c.buffer ++ bytes) []) b else ⟨[], c, b⟩

-- The client sends no more.
def Connection.finish (fresh : MessageId) (c : Connection) (b : Bridge) : Reaction :=
  if c.isOpen then
    let r := c.onTaken fresh (Frame.takeLast c.buffer) b
    if r.connection.isOpen then r.connection.ended r.written r.bridge else r
  else ⟨[], c, b⟩

def noteFrame (note : Note) : Frame :=
  .notification note.id.short note.datatype note.payload

-- Writes the note that has waited longest. One that does not fit a frame ends
-- the connection.
def Connection.writeNext? (c : Connection) (b : Bridge) : Option Reaction :=
  match (b.boxes.get? c.name).bind Queue.take? with
  | none => none
  | some (note, q) =>
      let b := { b with boxes := b.boxes.set c.name q }
      match (noteFrame note).encode with
      | .ok bytes => some ⟨bytes, c, b⟩
      | .error _ => some (c.ended [] b)

-- Writes at most `count` notes.
def Connection.writeUpTo (count : Nat) (c : Connection) (b : Bridge) : Reaction :=
  match count with
  | 0 => ⟨[], c, b⟩
  | count + 1 =>
      match c.writeNext? b with
      | none => ⟨[], c, b⟩
      | some r =>
          let more := r.connection.writeUpTo count r.bridge
          { more with written := r.written ++ more.written }

-- Writes all that waits in the connection's queue.
def Connection.flush (c : Connection) (b : Bridge) : Reaction :=
  match b.boxes.get? c.name with
  | none => ⟨[], c, b⟩
  | some q => c.writeUpTo q.items.length b

-- Forwards a note to the queue of every connection that asked for its
-- datatype.
def Bridge.forward (b : Bridge) (note : Note) : Mailboxes.Tally × Bridge :=
  let (tally, boxes) := b.boxes.deliver (b.interest.subscribers note.datatype) note
  (tally, { b with boxes })

end Rumor.Api
