import Rumor.Error
import Rumor.Record

namespace Rumor

-- Bytes that arrive `after` milliseconds after those before them.
structure Chunk where
  after : Nat
  bytes : Bytes
deriving DecidableEq, Repr

-- What a connection brings; one that does not end falls silent.
structure Arrival where
  chunks : List Chunk
  ends : Bool
deriving DecidableEq, Repr

namespace Arrival

-- What a reading took from a connection, and whether it came to its end in time.
structure Intake where
  taken : Bytes
  inTime : Bool
deriving DecidableEq, Repr

-- Reads until the end or until `wanted` bytes are there, given that one of the two
-- happens before the deadline: what comes with it is too late. Pieces stand newest
-- first.
def readBefore (deadline : Nat) (ends : Bool) (wanted now : Nat) (read : List Bytes) :
    List Chunk → Intake
  | [] => ⟨read.reverse.flatten, ends && now < deadline⟩
  | c :: rest =>
      let now := now + c.after
      let piece := c.bytes.take wanted
      if deadline ≤ now then ⟨read.reverse.flatten, false⟩
      else if wanted ≤ piece.length then ⟨(piece :: read).reverse.flatten, true⟩
      else readBefore deadline ends (wanted - piece.length) now (piece :: read) rest

-- One byte past the limit is enough to know that a record is too long.
def intake (timeout : Nat) (a : Arrival) : Intake :=
  readBefore timeout a.ends (Record.maxSize + 1) 0 [] a.chunks

def bytes? (timeout : Nat) (a : Arrival) : Option Bytes :=
  let intake := a.intake timeout
  if intake.inTime then some intake.taken else none

def defaultTimeout : Nat := 5000

-- The one message that a peer's connection brings.
def message (timeout : Nat) (a : Arrival) : Except PeerError Message :=
  match a.bytes? timeout with
  | none => .error (.timeout "read" "inbound")
  | some bytes =>
      if Record.maxSize < bytes.length then .error (.wire (.tooLarge bytes.length Record.maxSize))
      else
        match Record.decode bytes with
        | .ok m => .ok m
        | .error error => .error (.wire error)

end Arrival

end Rumor
