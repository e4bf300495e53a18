namespace Rumor

-- A bounded queue between two parties. Its reader may leave, which closes it
-- for good.
structure Queue (α : Type) where
  capacity : Nat
  items : List α
  isOpen : Bool
deriving DecidableEq, Repr

namespace Queue

variable {α : Type}

def empty (capacity : Nat) : Queue α :=
  ⟨capacity, [], true⟩

inductive Offer
  | taken
  | full
  | closed
deriving DecidableEq, Repr

-- Never waits for room.
def offer (q : Queue α) (a : α) : Offer × Queue α :=
  if !q.isOpen then (.closed, q)
  else if q.capacity ≤ q.items.length then (.full, q)
  else (.taken, { q with items := q.items ++ [a] })

def take? (q : Queue α) : Option (α × Queue α) :=
  match q.items with
  | [] => none
  | a :: rest => some (a, { q with items := rest })

def drain (q : Queue α) : List α × Queue α :=
  (q.items, { q with items := [] })

-- The reader leaves, and what it had not read is lost.
def close (q : Queue α) : Queue α :=
  { q with items := [], isOpen := false }

end Queue

end Rumor
