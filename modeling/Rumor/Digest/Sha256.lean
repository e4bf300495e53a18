import Rumor.Digest

namespace Rumor.Sha256

-- The chaining value: eight words.
structure Words where
  a : UInt32
  b : UInt32
  c : UInt32
  d : UInt32
  e : UInt32
  f : UInt32
  g : UInt32
  h : UInt32
deriving DecidableEq, Repr

def Words.add (x y : Words) : Words :=
  ⟨x.a + y.a, x.b + y.b, x.c + y.c, x.d + y.d, x.e + y.e, x.f + y.f, x.g + y.g, x.h + y.h⟩

-- Fractional parts of the square roots of the first eight primes.
def initial : Words :=
  ⟨0x6a09e667, 0xbb67ae85, 0x3c6ef372, 0xa54ff53a, 0x510e527f, 0x9b05688c, 0x1f83d9ab, 0x5be0cd19⟩

-- Fractional parts of the cube roots of the first sixty-four primes.
def constants : List UInt32 :=
  [0x428a2f98, 0x71374491, 0xb5c0fbcf, 0xe9b5dba5, 0x3956c25b, 0x59f111f1, 0x923f82a4, 0xab1c5ed5,
   0xd807aa98, 0x12835b01, 0x243185be, 0x550c7dc3, 0x72be5d74, 0x80deb1fe, 0x9bdc06a7, 0xc19bf174,
   0xe49b69c1, 0xefbe4786, 0x0fc19dc6, 0x240ca1cc, 0x2de92c6f, 0x4a7484aa, 0x5cb0a9dc, 0x76f988da,
   0x983e5152, 0xa831c66d, 0xb00327c8, 0xbf597fc7, 0xc6e00bf3, 0xd5a79147, 0x06ca6351, 0x14292967,
   0x27b70a85, 0x2e1b2138, 0x4d2c6dfc, 0x53380d13, 0x650a7354, 0x766a0abb, 0x81c2c92e, 0x92722c85,
   0xa2bfe8a1, 0xa81a664b, 0xc24b8b70, 0xc76c51a3, 0xd192e819, 0xd6990624, 0xf40e3585, 0x106aa070,
   0x19a4c116, 0x1e376c08, 0x2748774c, 0x34b0bcb5, 0x391c0cb3, 0x4ed8aa4a, 0x5b9cca4f, 0x682e6ff3,
   0x748f82ee, 0x78a5636f, 0x84c87814, 0x8cc70208, 0x90befffa, 0xa4506ceb, 0xbef9a3f7, 0xc67178f2]

def rotate (x : UInt32) (n : UInt32) : UInt32 :=
  (x >>> n) ||| (x <<< (32 - n))

def smallSigma0 (x : UInt32) : UInt32 := rotate x 7 ^^^ rotate x 18 ^^^ (x >>> 3)

def smallSigma1 (x : UInt32) : UInt32 := rotate x 17 ^^^ rotate x 19 ^^^ (x >>> 10)

def bigSigma0 (x : UInt32) : UInt32 := rotate x 2 ^^^ rotate x 13 ^^^ rotate x 22

def bigSigma1 (x : UInt32) : UInt32 := rotate x 6 ^^^ rotate x 11 ^^^ rotate x 25

def round (s : Words) (k w : UInt32) : Words :=
  let t1 := s.h + bigSigma1 s.e + ((s.e &&& s.f) ^^^ (~~~s.e &&& s.g)) + k + w
  let t2 := bigSigma0 s.a + ((s.a &&& s.b) ^^^ (s.a &&& s.c) ^^^ (s.b &&& s.c))
  ⟨t1 + t2, s.a, s.b, s.c, s.d + t1, s.e, s.f, s.g⟩

-- The last sixteen words of the message schedule, oldest first; a round takes
-- the oldest and adds the next.
structure Window where
  w0 : UInt32
  w1 : UInt32
  w2 : UInt32
  w3 : UInt32
  w4 : UInt32
  w5 : UInt32
  w6 : UInt32
  w7 : UInt32
  w8 : UInt32
  w9 : UInt32
  w10 : UInt32
  w11 : UInt32
  w12 : UInt32
  w13 : UInt32
  w14 : UInt32
  w15 : UInt32

def Window.next (w : Window) : Window :=
  ⟨w.w1, w.w2, w.w3, w.w4, w.w5, w.w6, w.w7, w.w8, w.w9, w.w10, w.w11, w.w12, w.w13, w.w14, w.w15,
    smallSigma1 w.w14 + w.w9 + smallSigma0 w.w1 + w.w0⟩

def rounds : List UInt32 → Words → Window → Words
  | [], s, _ => s
  | k :: rest, s, w => rounds rest (round s k w.w0) w.next

def compress (s : Words) (block : Window) : Words :=
  s.add (rounds constants s block)

def word (a b c d : UInt8) : UInt32 :=
  (a.toUInt32 <<< 24) ||| (b.toUInt32 <<< 16) ||| (c.toUInt32 <<< 8) ||| d.toUInt32

-- The first sixteen big-endian words, with zeros past the end.
def words : Nat → Bytes → List UInt32
  | 0, _ => []
  | n + 1, a :: b :: c :: d :: rest => word a b c d :: words n rest
  | n + 1, _ => 0 :: words n []

def block (bytes : Bytes) : Window :=
  match words 16 bytes with
  | [a, b, c, d, e, f, g, h, i, j, k, l, m, n, o, p] =>
      ⟨a, b, c, d, e, f, g, h, i, j, k, l, m, n, o, p⟩
  | _ => ⟨0, 0, 0, 0, 0, 0, 0, 0, 0, 0, 0, 0, 0, 0, 0, 0⟩

-- `pending` holds the bytes after the last whole block, newest first, and
-- `waiting` is their number.
structure State where
  words : Words
  pending : Bytes
  waiting : Nat
  length : Nat

def State.push (s : State) (b : UInt8) : State :=
  if s.waiting < 63 then ⟨s.words, b :: s.pending, s.waiting + 1, s.length + 1⟩
  else ⟨compress s.words (block (b :: s.pending).reverse), [], 0, s.length + 1⟩

def start : State :=
  ⟨initial, [], 0, 0⟩

def bigEndian (x : UInt32) : Bytes :=
  [(x >>> 24).toUInt8, (x >>> 16).toUInt8, (x >>> 8).toUInt8, x.toUInt8]

def Words.bytes (s : Words) : Bytes :=
  bigEndian s.a ++ bigEndian s.b ++ bigEndian s.c ++ bigEndian s.d ++ bigEndian s.e ++
    bigEndian s.f ++ bigEndian s.g ++ bigEndian s.h

-- A one bit, then zeros up to the last eight bytes of a block, then the length
-- in bits.
def padding (length : Nat) : Bytes :=
  let bits := UInt64.ofNat (8 * length)
  (0x80 : UInt8) :: List.replicate ((119 - length % 64) % 64) 0 ++
    bigEndian (bits >>> 32).toUInt32 ++ bigEndian bits.toUInt32

def finish (s : State) : Bytes :=
  ((padding s.length).foldl State.push s).words.bytes

end Sha256

-- FIPS 180-4, section 6.2.
def Digest.sha256 : Digest where
  State := Sha256.State
  start := Sha256.start
  absorb := List.foldl Sha256.State.push
  finish := Sha256.finish
  absorb_append := fun _ _ _ => List.foldl_append

end Rumor
