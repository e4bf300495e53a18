import Rumor.Text.Digits

namespace Rumor.Utf8

def encodeChar (c : Char) : Bytes :=
  let n := c.toNat
  let tail (k : Nat) : UInt8 := .ofNat (0x80 + k % 64)
  if n < 0x80 then [.ofNat n]
  else if n < 0x800 then [.ofNat (0xC0 + n / 64), tail n]
  else if n < 0x10000 then [.ofNat (0xE0 + n / 4096), tail (n / 64), tail n]
  else [.ofNat (0xF0 + n / 262144), tail (n / 4096), tail (n / 64), tail n]

def encode (text : String) : Bytes :=
  text.toList.flatMap encodeChar

-- A sequence that has begun: `width` bytes are read and fit, `need` bytes are
-- missing, and the next one has to lie between `low` and `high`.
structure Pending where
  width : Nat
  need : Nat
  low : UInt8
  high : UInt8
  bits : Nat
deriving DecidableEq, Repr

-- What a multi-byte sequence that begins with `b` asks of its second byte.
-- The narrower ranges exclude overlong forms, surrogates and values past the
-- last code point, so a sequence is broken at the first byte that rules out
-- every character.
def lead? (b : UInt8) : Option Pending :=
  if 0xC2 ≤ b ∧ b ≤ 0xDF then some ⟨1, 1, 0x80, 0xBF, b.toNat - 0xC0⟩
  else if b = 0xE0 then some ⟨1, 2, 0xA0, 0xBF, 0⟩
  else if b = 0xED then some ⟨1, 2, 0x80, 0x9F, 13⟩
  else if 0xE1 ≤ b ∧ b ≤ 0xEF then some ⟨1, 2, 0x80, 0xBF, b.toNat - 0xE0⟩
  else if b = 0xF0 then some ⟨1, 3, 0x90, 0xBF, 0⟩
  else if 0xF1 ≤ b ∧ b ≤ 0xF3 then some ⟨1, 3, 0x80, 0xBF, b.toNat - 0xF0⟩
  else if b = 0xF4 then some ⟨1, 3, 0x80, 0x8F, 4⟩
  else none

-- A character, or the longest run of bytes that begins one and goes wrong.
inductive Piece
  | char (c : Char)
  | broken (width : Nat)
deriving DecidableEq, Repr

-- Pieces stand newest first.
structure Scan where
  pieces : List Piece
  pending : Option Pending

def Scan.begin (pieces : List Piece) (b : UInt8) : Scan :=
  if b < 0x80 then ⟨.char (Char.ofNat b.toNat) :: pieces, none⟩
  else match lead? b with
    | some p => ⟨pieces, some p⟩
    | none => ⟨.broken 1 :: pieces, none⟩

def Scan.step (s : Scan) (b : UInt8) : Scan :=
  match s.pending with
  | none => .begin s.pieces b
  | some p =>
      if p.low ≤ b ∧ b ≤ p.high then
        let bits := 64 * p.bits + b.toNat % 64
        if p.need ≤ 1 then ⟨.char (Char.ofNat bits) :: s.pieces, none⟩
        else ⟨s.pieces, some ⟨p.width + 1, p.need - 1, 0x80, 0xBF, bits⟩⟩
      else .begin (.broken p.width :: s.pieces) b

def scan (bytes : Bytes) : Scan :=
  bytes.foldl Scan.step ⟨[], none⟩

-- `index` is the length of the text in front of the fault.
inductive Fault
  | broken (width index : Nat)
  | cut (index : Nat)
deriving DecidableEq, Repr

def Fault.message : Fault → String
  | .broken width index =>
      s!"invalid utf-8 sequence of {Decimal.ofNat width} bytes from index {Decimal.ofNat index}"
  | .cut index => s!"incomplete utf-8 byte sequence from index {Decimal.ofNat index}"

-- Reads pieces oldest first; `text` holds the characters read, newest first,
-- and `index` counts their bytes.
def collect (cut : Bool) (text : List Char) (index : Nat) : List Piece → Except Fault String
  | [] => if cut then .error (.cut index) else .ok (String.ofList text.reverse)
  | .char c :: rest => collect cut (c :: text) (index + (encodeChar c).length) rest
  | .broken width :: _ => .error (.broken width index)

def decode (bytes : Bytes) : Except Fault String :=
  let s := scan bytes
  collect s.pending.isSome [] 0 s.pieces.reverse

def Piece.shown : Piece → Char
  | .char c => c
  | .broken _ => '\uFFFD'

-- Each broken run, and a sequence cut off by the end, shows as one
-- replacement character.
def lossy (bytes : Bytes) : String :=
  let s := scan bytes
  let shown := s.pieces.map Piece.shown
  String.ofList (if s.pending.isSome then '\uFFFD' :: shown else shown).reverse

end Rumor.Utf8
