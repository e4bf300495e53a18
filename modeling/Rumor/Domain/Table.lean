import Rumor.Text.Digits
import Rumor.Text.Line

namespace Rumor.Domain

-- A line of a table of characters: those from `first` to `last` in steps of
-- `stride`, and what they go with, which moves along with them or stays.
structure Row where
  first : Nat
  last : Nat
  stride : Nat
  moves : Bool
  target : List Nat
deriving DecidableEq, Repr

namespace Row

def number (digits : List Char) : Nat :=
  (Radix.valueFrom 16 0 digits).getD 0

-- Rows are written in base sixteen: `1-5` from 1 to 5 and `1:5` every second of
-- those; behind `=` a target that stays, and behind `>` one that moves, with plus
-- signs between its parts.
def ofText (text : List Char) : Row :=
  let place := text.takeWhile fun c => c != '=' && c != '>'
  let target := text.drop place.length
  let first := place.takeWhile fun c => c != '-' && c != ':'
  let last := place.drop first.length
  { first := number first
    last := if last.isEmpty then number first else number last.tail
    stride := if last.head? = some ':' then 2 else 1
    moves := target.head? = some '>'
    target := if target.isEmpty then [] else (target.tail.splitOn '+').map number }

def holds (row : Row) (n : Nat) : Bool :=
  row.first ≤ n && n ≤ row.last && (n - row.first) % row.stride = 0

-- What a character of the row goes with.
def image (row : Row) (n : Nat) : List Nat :=
  if row.moves then row.target.map (· + (n - row.first)) else row.target

end Row

-- Rows with blanks between.
abbrev Table := Array Row

namespace Table

def ofText (text : String) : Table :=
  (((text.toList.splitOnP Text.isBlank).filter (!·.isEmpty)).map Row.ofText).toArray

def row? (table : Table) (c : Char) : Option Row :=
  table.find? (·.holds c.toNat)

def has (table : Table) (c : Char) : Bool :=
  table.any (·.holds c.toNat)

def image? (table : Table) (c : Char) : Option (List Nat) :=
  (table.row? c).map (·.image c.toNat)

end Table

end Rumor.Domain
