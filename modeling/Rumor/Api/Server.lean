import Rumor.Api.Connection

namespace Rumor.Api

-- A connection and what its client has received and not looked at.
structure Line where
  client : String
  connection : Connection
  unread : Bytes
deriving DecidableEq, Repr

-- The connections of one node, newest first, and the queue from which notes
-- are forwarded to them. `opened` numbers the connections, so that no name is
-- given twice.
structure Server where
  bridge : Bridge
  notes : Queue Note
  lines : List Line
  opened : Nat
deriving DecidableEq, Repr

-- What a client sees of its connection.
structure News where
  bytes : Bytes
  closed : Bool
deriving DecidableEq, Repr

namespace Server

def start (self : String) (announceQueue dispatchQueue noteQueue : Nat) : Server :=
  ⟨.start self announceQueue noteQueue, .empty dispatchQueue, [], 0⟩

def accept (s : Server) (client : String) : Server :=
  { s with
    lines := ⟨client, .start (Decimal.ofNat s.opened), []⟩ :: s.lines
    opened := s.opened + 1 }

-- Lets the newest connection of `client` take a step.
def update (s : Server) (client : String) (act : Connection → Bridge → Reaction) : Server :=
  let rec go (bridge : Bridge) : List Line → List Line × Bridge
    | [] => ([], bridge)
    | line :: rest =>
        if line.client = client then
          let r := act line.connection bridge
          ({ line with connection := r.connection, unread := line.unread ++ r.written } :: rest,
            r.bridge)
        else
          let (rest, bridge) := go bridge rest
          (line :: rest, bridge)
  let (lines, bridge) := go s.bridge s.lines
  { s with lines, bridge }

-- Lets every connection take a step.
def updateAll (s : Server) (act : Connection → Bridge → Reaction) : Server :=
  let (lines, bridge) := s.lines.foldr (fun line (lines, bridge) =>
    let r := act line.connection bridge
    ({ line with connection := r.connection, unread := line.unread ++ r.written } :: lines,
      r.bridge)) ([], s.bridge)
  { s with lines, bridge }

def receive (s : Server) (fresh : MessageId) (client : String) (bytes : Bytes) : Server :=
  s.update client fun c b => c.receive fresh bytes b

def finish (s : Server) (fresh : MessageId) (client : String) : Server :=
  s.update client fun c b => c.finish fresh b

-- The client has read all but `rest`.
def keep (s : Server) (line : Line) (rest : Bytes) : Server :=
  { s with lines := s.lines.map fun l =>
      if l.connection.name = line.connection.name then { l with unread := rest } else l }

-- The client looks at what it got.
def news (s : Server) (client : String) : Option (News × Server) :=
  (s.lines.find? (·.client = client)).map fun line =>
    (⟨line.unread, !line.connection.isOpen⟩, s.keep line [])

-- The client takes one frame out of what it got, if a whole one is there.
def takeFrame (s : Server) (client : String) : Bytes × Server :=
  match s.lines.find? (·.client = client) with
  | none => ([], s)
  | some line =>
      match Frame.front line.unread with
      | .frame _ rest => (line.unread.take (line.unread.length - rest.length), s.keep line rest)
      | _ => ([], s)

-- Drops the connections that are closed and read to the end.
def forget (s : Server) : Server :=
  { s with lines := s.lines.filter fun line => line.connection.isOpen || !line.unread.isEmpty }

-- Queues the notes that find room; their number.
def queue (s : Server) (notes : List Note) : Nat × Server :=
  notes.foldl (fun (accepted, s) note =>
    match s.notes.offer note with
    | (.taken, notes) => (accepted + 1, { s with notes })
    | _ => (accepted, s)) (0, s)

-- Forwards all that is queued, before any connection writes.
def dispatch (s : Server) : Server :=
  let (notes, rest) := s.notes.drain
  { s with notes := rest, bridge := notes.foldl (fun b note => (b.forward note).2) s.bridge }

def flush (s : Server) : Server :=
  s.updateAll fun c b => c.flush b

def notify (s : Server) (notes : List Note) : Nat × Server :=
  let (accepted, s) := s.queue notes
  (accepted, s.dispatch.flush)

def shutdown (s : Server) : Server :=
  s.updateAll fun c b => c.ended [] b

end Server

end Rumor.Api
