import Rumor.Bytes

namespace Rumor.Decimal

def digit (n : Nat) : Char :=
  Char.ofNat (48 + n)

-- The digits of `n`, written in front of `rest`.
def digitsBefore (n : Nat) (rest : List Char) : List Char :=
  if n < 10 then digit n :: rest
  else digitsBefore (n / 10) (digit (n % 10) :: rest)
termination_by n

def digits (n : Nat) : List Char :=
  digitsBefore n []

def ofNat (n : Nat) : String :=
  String.ofList (digits n)

def ofInt : Int → String
  | .ofNat n => ofNat n
  | .negSucc n => String.ofList ('-' :: digits (n + 1))

def digit? (c : Char) : Option Nat :=
  if '0' ≤ c ∧ c ≤ '9' then some (c.toNat - 48) else none

def valueFrom (n : Nat) : List Char → Option Nat
  | [] => some n
  | c :: rest => (digit? c).bind fun d => valueFrom (10 * n + d) rest

-- At least one digit, and nothing but digits.
def value? : List Char → Option Nat
  | [] => none
  | c :: rest => valueFrom 0 (c :: rest)

end Rumor.Decimal

namespace Rumor.Hex

def digit (n : Nat) : Char :=
  if n < 10 then Char.ofNat (48 + n) else Char.ofNat (87 + n)

def byte (b : UInt8) : List Char :=
  [digit (b.toNat / 16), digit (b.toNat % 16)]

def encode (bytes : Bytes) : String :=
  String.ofList (bytes.flatMap byte)

-- The low `width` hexadecimal digits of `n`.
def fixed (width n : Nat) : List Char :=
  match width with
  | 0 => []
  | width + 1 => fixed width (n / 16) ++ [digit (n % 16)]

def digit? (b : UInt8) : Option Nat :=
  if 0x30 ≤ b ∧ b ≤ 0x39 then some (b.toNat - 0x30)
  else if 0x41 ≤ b ∧ b ≤ 0x46 then some (b.toNat - 0x41 + 10)
  else if 0x61 ≤ b ∧ b ≤ 0x66 then some (b.toNat - 0x61 + 10)
  else none

def decodeFrom (read : Bytes) : List Char → Option Bytes
  | [] => some read.reverse
  | a :: b :: rest =>
      match digit? a.val.toUInt8, digit? b.val.toUInt8 with
      | some high, some low => decodeFrom (.ofNat (16 * high + low) :: read) rest
      | _, _ => none
  | [_] => none

def decode? (text : String) : Option Bytes :=
  if text.toList.all (·.toNat < 0x80) then decodeFrom [] text.toList else none

end Rumor.Hex

namespace Rumor.Radix

-- The value of a digit in a base up to sixteen.
def digit? (base : Nat) (c : Char) : Option Nat :=
  if c.toNat < 0x80 then (Hex.digit? c.val.toUInt8).filter (· < base) else none

def valueFrom (base n : Nat) : List Char → Option Nat
  | [] => some n
  | c :: rest => (digit? base c).bind fun d => valueFrom base (base * n + d) rest

-- A base that shows in front of the digits: `0x` for sixteen, and a zero that
-- is not alone for eight.
def ofFront : List Char → Nat × List Char
  | '0' :: 'x' :: digits | '0' :: 'X' :: digits => (16, digits)
  | '0' :: d :: digits => (8, d :: digits)
  | digits => (10, digits)

-- The number that begins with its base. No digits behind the base are zero.
def value? (text : List Char) : Option Nat :=
  if text.isEmpty then none
  else
    let (base, digits) := ofFront text
    valueFrom base 0 digits

-- Whether there are digits behind the base.
def isWritten (text : List Char) : Bool :=
  !(ofFront text).2.isEmpty

-- Lower-case digits in base sixteen without zeros in front.
def hexDigits (n : Nat) : List Char :=
  if n < 16 then [Hex.digit n] else hexDigits (n / 16) ++ [Hex.digit (n % 16)]

end Rumor.Radix

namespace Rumor.Base64

def digit (n : Nat) : Char :=
  if n < 26 then .ofNat (65 + n)
  else if n < 52 then .ofNat (71 + n)
  else if n < 62 then .ofNat (n - 4)
  else if n = 62 then '+'
  else '/'

-- Three bytes make four digits. At the end, equals signs stand for the digits of
-- bytes that are missing.
def encode : Bytes → List Char
  | a :: b :: c :: rest =>
      let n := 65536 * a.toNat + 256 * b.toNat + c.toNat
      digit (n / 262144) :: digit (n / 4096 % 64) :: digit (n / 64 % 64) :: digit (n % 64) ::
        encode rest
  | [a, b] =>
      let n := 256 * a.toNat + b.toNat
      [digit (n / 1024), digit (n / 16 % 64), digit (4 * n % 64), '=']
  | [a] => [digit (a.toNat / 4), digit (16 * a.toNat % 64), '=', '=']
  | [] => []

end Rumor.Base64
