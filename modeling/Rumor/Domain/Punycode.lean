namespace Rumor.Domain.Punycode

-- A text is written as its ASCII characters and behind them the others, each as
-- the distance from the one before in a count over all characters and positions.
-- Distances have digits in base 36, least first; a digit below a threshold ends
-- one, and thresholds follow the size of the distances before.

def digit (n : Nat) : Char :=
  if n < 26 then .ofNat (97 + n) else .ofNat (22 + n)

def digit? (c : Char) : Option Nat :=
  let n := c.toNat
  if 97 ≤ n && n ≤ 122 then some (n - 97)
  else if 65 ≤ n && n ≤ 90 then some (n - 65)
  else if 48 ≤ n && n ≤ 57 then some (n - 22)
  else none

def threshold (bias position : Nat) : Nat :=
  max 1 (min 26 (position - bias))

theorem threshold_pos (bias position : Nat) : 1 ≤ threshold bias position := by
  unfold threshold; omega

def settle (distance steps : Nat) : Nat :=
  if 455 < distance then settle (distance / 35) (steps + 36)
  else steps + 36 * distance / (distance + 38)
termination_by distance

-- The bias behind a distance, where the text has grown to `size` characters.
def biasAfter (distance size : Nat) (isFirst : Bool) : Nat :=
  let distance := if isFirst then distance / 700 else distance / 2
  settle (distance + distance / size) 0

def firstBias : Nat := 72

-- The digits of a distance, of which `position` counts 36 for each.
def digits (bias position distance : Nat) : List Char :=
  let t := threshold bias position
  if distance < t then [digit distance]
  else digit (t + (distance - t) % (36 - t)) ::
    digits bias (position + 36) ((distance - t) / (36 - t))
termination_by distance
decreasing_by
  have := threshold_pos bias position
  have := Nat.div_le_self (distance - threshold bias position) (36 - threshold bias position)
  omega

-- What is written so far, newest first, and how far the next character is.
structure Writing where
  written : List Char
  distance : Nat
  bias : Nat
  size : Nat
  isFirst : Bool

-- Passes one character of the text while those with the code `code` are written.
def Writing.pass (code : Nat) (w : Writing) (c : Char) : Writing :=
  if c.toNat < code then { w with distance := w.distance + 1 }
  else if c.toNat = code then
    { written := (digits w.bias 36 w.distance).reverse ++ w.written
      distance := 0
      bias := biasAfter w.distance (w.size + 1) w.isFirst
      size := w.size + 1
      isFirst := false }
  else w

-- Writes the characters with each of the codes, which ascend from `next` on.
def writeAll (text : List Char) (next : Nat) (w : Writing) : List Nat → Writing
  | [] => w
  | code :: rest =>
      let w := { w with distance := w.distance + (code - next) * (w.size + 1) }
      let w := text.foldl (Writing.pass code) w
      writeAll text (code + 1) { w with distance := w.distance + 1 } rest

def isAscii (c : Char) : Bool :=
  c.toNat < 0x80

def encode (text : List Char) : List Char :=
  let plain := text.filter isAscii
  let codes := (((text.filter (!isAscii ·)).map Char.toNat).mergeSort (· ≤ ·)).eraseDups
  let w := writeAll text 0x80 ⟨[], 0, firstBias, plain.length, true⟩ codes
  plain ++ (if plain.isEmpty then [] else ['-']) ++ w.written.reverse

-- Reads a distance: each digit counts `weight` times. The result is added to
-- `total`, and may not reach the size of a word.
def readDistance (bias position weight total : Nat) : List Char → Option (Nat × List Char)
  | [] => none
  | c :: rest =>
      match digit? c with
      | none => none
      | some d =>
          let t := threshold bias position
          let total := total + d * weight
          if UInt32.size ≤ total then none
          else if d < t then some (total, rest)
          else if UInt32.size ≤ weight * (36 - t) then none
          else readDistance bias (position + 36) (weight * (36 - t)) total rest

-- Puts in one character after the other; `count` bounds their number.
def readAll (count bias code place : Nat) (text : List Char) :
    List Char → Option (List Char)
  | [] => some text
  | c :: rest =>
      match count with
      | 0 => none
      | count + 1 =>
          match readDistance bias 36 1 place (c :: rest) with
          | none => none
          | some (total, rest) =>
              let size := text.length + 1
              let code := code + total / size
              if code.isValidChar then
                readAll count (biasAfter (total - place) size (place = 0)) code (total % size + 1)
                  (text.insertIdx (total % size) (.ofNat code)) rest
              else none

def decode? (text : List Char) : Option (List Char) :=
  let distances := (text.reverse.takeWhile (· ≠ '-')).reverse
  let plain := ((text.reverse.dropWhile (· ≠ '-')).drop 1).reverse
  if plain.isEmpty && text.contains '-' then none
  else if plain.all isAscii then readAll distances.length firstBias 0x80 0 plain distances else none

end Rumor.Domain.Punycode
