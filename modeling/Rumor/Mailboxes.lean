import Rumor.Interest
import Rumor.Queue

namespace Rumor

-- The queues of subscribers, by name.
structure Mailboxes where
  boxes : List (String × Queue Note)
deriving DecidableEq, Repr

namespace Mailboxes

def empty : Mailboxes :=
  ⟨[]⟩

def get? (m : Mailboxes) (name : String) : Option (Queue Note) :=
  m.boxes.lookup name

def set (m : Mailboxes) (name : String) (q : Queue Note) : Mailboxes :=
  if m.boxes.any (·.1 = name) then
    ⟨m.boxes.map fun b => if b.1 = name then (name, q) else b⟩
  else ⟨m.boxes ++ [(name, q)]⟩

def erase (m : Mailboxes) (name : String) : Mailboxes :=
  ⟨m.boxes.filter (·.1 ≠ name)⟩

-- Makes the queue on its first use.
def ensure (m : Mailboxes) (name : String) (capacity : Nat) : Mailboxes :=
  if m.boxes.any (·.1 = name) then m else m.set name (.empty capacity)

-- Whether the queue took the note. A queue that is gone takes none.
def offer (m : Mailboxes) (name : String) (note : Note) : Bool × Mailboxes :=
  match m.get? name with
  | none => (false, m)
  | some q =>
      match q.offer note with
      | (.taken, q) => (true, m.set name q)
      | _ => (false, m)

structure Tally where
  delivered : Nat
  dropped : Nat
deriving DecidableEq, Repr

-- Offers the note to each named queue in turn; one that is full or closed
-- holds up no other.
def deliver (m : Mailboxes) (names : List String) (note : Note) : Tally × Mailboxes :=
  names.foldl (fun (tally, m) name =>
    match m.offer name note with
    | (true, m) => ({ tally with delivered := tally.delivered + 1 }, m)
    | (false, m) => ({ tally with dropped := tally.dropped + 1 }, m)) (⟨0, 0⟩, m)

end Mailboxes

end Rumor
