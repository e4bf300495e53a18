import Std.Data.ExtHashSet

namespace Rumor

-- Addresses are the same if they are equal, whatever other comparison of texts is at hand.
instance equivBEqString : EquivBEq String :=
  instEquivBEqOfLawfulBEq

-- The addresses a node knows: peers oldest first, the same in a set in which they
-- are looked up, and the seed nodes it was told of.
structure Peers where
  self : String
  degree : Nat
  members : List String
  known : Std.ExtHashSet String
  seeds : List String
  isSeed : Bool
deriving DecidableEq

-- What a registry tells about the network.
structure View where
  peers : List String
  seeds : List String
deriving DecidableEq, Repr

namespace Peers

def empty (self : String) (degree : Nat) : Peers :=
  ⟨self, degree, [], ∅, [], false⟩

def contains (p : Peers) (address : String) : Bool :=
  p.known.contains address

def size (p : Peers) : Nat :=
  p.members.length

-- A node is no peer of its own, and an empty text is no address.
def isAdmissible (p : Peers) (address : String) : Bool :=
  address != "" && address != p.self

-- Whether `address` was new, be it one that may be a peer or not. One that is known keeps
-- its place.
def insert (p : Peers) (address : String) : Bool × Peers :=
  if p.contains address then (false, p)
  else (true, { p with members := p.members ++ [address], known := p.known.insert address })

-- Whether `address` was new.
def add (p : Peers) (address : String) : Bool × Peers :=
  if p.isAdmissible address then p.insert address else (false, p)

-- Whether `address` was known.
def remove (p : Peers) (address : String) : Bool × Peers :=
  if p.contains address then
    (true, { p with members := p.members.filter (· ≠ address), known := p.known.erase address })
  else (false, p)

def insertCounted (counted : Nat × Peers) (address : String) : Nat × Peers :=
  let (new, p) := counted.2.insert address
  (counted.1 + new.toNat, p)

-- The number of addresses that were new. Each of them is known to those that come after it.
def merge (p : Peers) (addresses : List String) : Nat × Peers :=
  (addresses.filter p.isAdmissible).foldl insertCounted (0, p)

-- Drops the oldest peers until `degree` are left, and tells which.
def bound (p : Peers) : List String × Peers :=
  let excess := p.members.length - p.degree
  let evicted := p.members.take excess
  (evicted, { p with
    members := p.members.drop excess
    known := evicted.foldl (fun known address => known.erase address) p.known })

def setSeeds (p : Peers) (seeds : List String) : Peers :=
  { p with seeds := seeds.filter p.isAdmissible }

-- The seed at the place that `pick` falls on, counted around.
def seed? (p : Peers) (pick : Nat) : Option String :=
  p.seeds[pick % p.seeds.length]?

-- Takes over a registry's view; the number of peers that were new.
def apply (p : Peers) (view : View) : Nat × Peers :=
  let p := { p with isSeed := view.seeds.contains p.self }
  let (added, p) := (p.setSeeds view.seeds).merge view.peers
  (added, p.bound.2)

end Peers

end Rumor
