import Rumor.Digest
import Rumor.Message

namespace Rumor

-- How many leading hexadecimal digits of a stamped message's digest are zero.
structure Difficulty where
  zeros : Nat
  zeros_le : zeros ≤ 8
deriving DecidableEq, Repr

namespace Difficulty

-- Each further digit costs sixteen times the work.
def max : Nat := 8

def none : Difficulty :=
  ⟨0, Nat.zero_le _⟩

def ofZeros? (zeros : Nat) : Option Difficulty :=
  if h : zeros ≤ 8 then some ⟨zeros, h⟩ else .none

def leading (d : Difficulty) : String :=
  String.ofList (List.replicate d.zeros '0')

-- Whether the first `zeros` digits are zero, or all if there are fewer.
def leadingZeros : Nat → Bytes → Bool
  | 0, _ => true
  | _, [] => true
  | 1, b :: _ => b < 16
  | n + 2, b :: rest => b == 0 && leadingZeros n rest

def isMetBy (d : Difficulty) (digest : Bytes) : Bool :=
  leadingZeros d.zeros digest

end Difficulty

namespace Stamp

-- The text that a stamp is bound to: every field but the nonce, and the payload
-- as far as it is text.
def canonical (m : Message) : String :=
  Decimal.ofInt m.kind.toInt ++ m.sender ++ Utf8.lossy m.payload ++ Decimal.ofInt m.ttl.toInt ++
    Decimal.ofNat m.id.toNat

def canonicalBytes (m : Message) : Bytes :=
  Utf8.encode (canonical m)

def nonceBytes (nonce : Nat) : Bytes :=
  (Decimal.digits nonce).map fun c => c.val.toUInt8

def hashed (m : Message) : Bytes :=
  canonicalBytes m ++ nonceBytes m.nonce.toNat

def isValid (H : Digest) (d : Difficulty) (m : Message) : Bool :=
  d.isMetBy (H.hash (hashed m))

-- The least number from `n` on that passes, among those of 64 bits.
def leastFrom (passes : Nat → Bool) (n : Nat) : Option Nat :=
  if n < UInt64.size then
    if passes n then some n else leastFrom passes (n + 1)
  else none
termination_by UInt64.size - n

-- The canonical text is absorbed once and its state used for every nonce.
def stamp? (H : Digest) (d : Difficulty) (m : Message) : Option Message :=
  let prepared := H.absorb H.start (canonicalBytes m)
  let passes (nonce : Nat) : Bool := d.isMetBy (H.finish (H.absorb prepared (nonceBytes nonce)))
  (leastFrom passes 0).map fun nonce => { m with nonce := .ofNat nonce }

end Stamp

end Rumor
