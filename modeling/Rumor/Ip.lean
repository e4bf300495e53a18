import Rumor.Text.Digits

namespace Rumor

-- A numeric host. A long one has eight groups; its zone is the number of the
-- link that it is meant on, or zero.
inductive Ip
  | short (word : UInt32)
  | long (groups : List UInt16) (zone : Nat)
deriving DecidableEq, Repr

namespace Ip

-- A decimal number up to 255 without zeros in front.
def octet? (text : List Char) : Option Nat :=
  match text with
  | '0' :: _ :: _ => none
  | _ => (Decimal.value? text).filter (· ≤ 255)

-- Numbers of one byte each, but for the last, which fills the rest of `room`.
def fill (room : Nat) : List Nat → Option Nat
  | [] => none
  | [last] => if last < room then some last else none
  | part :: rest =>
      if part ≤ 255 then (fill (room / 256) rest).map (part * (room / 256) + ·) else none

def ofNumbers? (numbers : List Nat) : Option Ip :=
  if numbers.length ≤ 4 then (fill UInt32.size numbers).map fun n => .short (.ofNat n) else none

-- Four octets with dots between.
def octets? (text : List Char) : Option Nat :=
  let parts := text.splitOn '.'
  if parts.length = 4 then (parts.mapM octet?).bind (fill UInt32.size) else none

-- One to four digits in base sixteen.
def group? (text : List Char) : Option UInt16 :=
  if text.isEmpty ∨ 4 < text.length then none
  else (Radix.valueFrom 16 0 text).map .ofNat

-- Groups, the last two of which may be spelled as octets.
def groupsOf? : List (List Char) → Option (List UInt16)
  | [] => some []
  | [last] =>
      match octets? last with
      | some n => some [.ofNat (n / 65536), .ofNat n]
      | none => (group? last).map fun g => [g]
  | part :: rest => do return (← group? part) :: (← groupsOf? rest)

def someGroups? (text : List Char) : Option (List UInt16) :=
  if text.isEmpty then some [] else groupsOf? (text.splitOn ':')

-- The texts in front of the first double colon and behind it.
def cutGap (read : List Char) : List Char → Option (List Char × List Char)
  | ':' :: ':' :: rest => some (read.reverse, rest)
  | c :: rest => cutGap (c :: read) rest
  | [] => none

-- Eight groups. A double colon stands for one or more that are zero.
def groups? (text : List Char) : Option (List UInt16) :=
  match cutGap [] text with
  | none => (someGroups? text).filter (·.length = 8)
  | some (front, back) => do
      let front ← if front.isEmpty then some [] else (front.splitOn ':').mapM group?
      let back ← someGroups? back
      if front.length + back.length ≤ 7 then
        some (front ++ List.replicate (8 - front.length - back.length) 0 ++ back)
      else none

def zone? (text : List Char) : Option Nat :=
  (Decimal.value? text).filter (· < UInt32.size)

-- A short host within the long ones.
def ofMapped? (groups : List UInt16) : Option UInt32 :=
  match groups with
  | [0, 0, 0, 0, 0, 0xFFFF, high, low] => some (high.toUInt32 <<< 16 ||| low.toUInt32)
  | _ => none

-- What a host amounts to, however it is written.
def plain : Ip → Ip
  | .short word => .short word
  | .long groups zone =>
      match ofMapped? groups with
      | some word => .short word
      | none => .long groups zone

def isMulticast (groups : List UInt16) : Bool :=
  groups.head?.any (0xFF00 ≤ ·)

-- Whether a host makes sense on one link only.
def isOnLink (groups : List UInt16) : Bool :=
  groups.head?.any fun g => g &&& 0xFFC0 = 0xFE80

-- Hosts of many on one link or one machine.
def isOnLinkMulticast (groups : List UInt16) : Bool :=
  groups.head?.any fun g => g &&& 0xFF0F = 0xFF01 || g &&& 0xFF0F = 0xFF02

-- The host that stands for all of a machine's own.
def isAny : Ip → Bool
  | .short word => word = 0
  | .long groups _ => groups.all (· = 0)

def loopback : Ip :=
  .short 0x7F000001

def wordText (word : UInt32) : String :=
  let n := word.toNat
  ".".intercalate ([n / 16777216, n / 65536 % 256, n / 256 % 256, n % 256].map Decimal.ofNat)

def zerosAt (groups : List UInt16) (n : Nat) : Nat :=
  ((groups.drop n).takeWhile (· = 0)).length

-- Where the longest run of zeros begins, the first of them, and its length.
def longestZeros (groups : List UInt16) : Nat × Nat :=
  (List.range groups.length).foldl
    (fun best n => if best.2 < zerosAt groups n then (n, zerosAt groups n) else best) (0, 0)

def joined (groups : List UInt16) : String :=
  ":".intercalate (groups.map fun g => String.ofList (Radix.hexDigits g.toNat))

-- A double colon takes the place of the longest run of two zeros or more.
def groupsText (groups : List UInt16) : String :=
  let (start, length) := longestZeros groups
  if length < 2 then joined groups
  else joined (groups.take start) ++ "::" ++ joined (groups.drop (start + length))

def text : Ip → String
  | .short word => wordText word
  | .long groups zone =>
      let shown := match ofMapped? groups with
        | some word => "::ffff:" ++ wordText word
        | none => groupsText groups
      if zone = 0 then shown else shown ++ "%" ++ Decimal.ofNat zone

end Ip

end Rumor
