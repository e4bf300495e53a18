namespace Rumor

abbrev Bytes := List UInt8

namespace Bytes

-- A 16-bit word with its high byte first.
def ofWord (w : UInt16) : Bytes :=
  [(w >>> 8).toUInt8, w.toUInt8]

def word (high low : UInt8) : UInt16 :=
  (high.toUInt16 <<< 8) ||| low.toUInt16

-- The text of ASCII bytes that a format spells out.
def ascii (text : String) : Bytes :=
  text.toList.map (fun c => c.val.toUInt8)

end Bytes

-- The bytes that a reader has not taken yet. Their number is kept beside them,
-- so that a length can be checked without a walk.
structure Input where
  bytes : Bytes
  size : Nat
  size_eq : size = bytes.length

namespace Input

def ofBytes (bytes : Bytes) : Input :=
  ⟨bytes, bytes.length, rfl⟩

-- What is left after at least one byte was taken.
abbrev Rest (input : Input) :=
  { rest : Input // rest.size < input.size }

-- What is left after any number of bytes was taken.
abbrev Tail (input : Input) :=
  { rest : Input // rest.size ≤ input.size }

-- What is left of a rest is left of the input.
def Rest.next {input : Input} (rest : input.Rest) (last : rest.val.Rest) : input.Rest :=
  ⟨last.val, Nat.lt_trans last.property rest.property⟩

def Rest.tail {input : Input} (rest : input.Rest) (last : rest.val.Tail) : input.Rest :=
  ⟨last.val, Nat.lt_of_le_of_lt last.property rest.property⟩

def Rest.toTail {input : Input} (rest : input.Rest) : input.Tail :=
  ⟨rest.val, Nat.le_of_lt rest.property⟩

def next? (input : Input) : Option (UInt8 × input.Rest) :=
  match input with
  | ⟨[], _, _⟩ => none
  | ⟨b :: rest, n, h⟩ =>
      some (b, ⟨⟨rest, n - 1, by simp [h]⟩, by simp [h]⟩)

-- The first `n` bytes, if there are that many.
def take? (n : Nat) (input : Input) : Option (Bytes × input.Tail) :=
  if n ≤ input.size then
    some (input.bytes.take n,
      ⟨⟨input.bytes.drop n, input.size - n, by simp [input.size_eq]⟩, Nat.sub_le _ _⟩)
  else none

end Input

end Rumor
