import Rumor.Message

namespace Rumor

-- Application data on its way to local subscribers.
structure Note where
  id : MessageId
  datatype : UInt16
  payload : Bytes
deriving DecidableEq, Repr

-- The datatypes one connection asked for, and the queue it reads from.
structure Subscription where
  connection : String
  queue : String
  datatypes : List UInt16
deriving DecidableEq, Repr

-- The subscriptions of all connections, at most one for each.
structure Interest where
  entries : List Subscription
deriving DecidableEq, Repr

namespace Interest

def empty : Interest :=
  ⟨[]⟩

def size (i : Interest) : Nat :=
  i.entries.length

-- A further datatype joins the entry, which keeps its queue.
def subscribe (i : Interest) (connection : String) (datatype : UInt16) (queue : String) :
    Interest :=
  if i.entries.any (·.connection = connection) then
    ⟨i.entries.map fun e =>
      if e.connection = connection then { e with datatypes := e.datatypes.insert datatype } else e⟩
  else ⟨i.entries ++ [⟨connection, queue, [datatype]⟩]⟩

-- Whether there was an entry.
def unsubscribe (i : Interest) (connection : String) : Bool × Interest :=
  (i.entries.any (·.connection = connection), ⟨i.entries.filter (·.connection ≠ connection)⟩)

def has (i : Interest) (datatype : UInt16) : Bool :=
  i.entries.any (·.datatypes.contains datatype)

-- The queue of each connection that asked for `datatype`.
def subscribers (i : Interest) (datatype : UInt16) : List String :=
  (i.entries.filter (·.datatypes.contains datatype)).map (·.queue)

end Interest

end Rumor
