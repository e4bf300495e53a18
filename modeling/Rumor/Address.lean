import Rumor.Ip
import Rumor.SystemFault

namespace Rumor

-- Where a socket is.
structure Endpoint where
  ip : Ip
  port : Nat
deriving DecidableEq, Repr

def Endpoint.text (e : Endpoint) : String :=
  let host := match e.ip with
    | .short _ => e.ip.text
    | .long .. => "[" ++ e.ip.text ++ "]"
  host ++ ":" ++ Decimal.ofNat e.port

-- What `host:port` says: an endpoint, or a name that has to be looked up first.
inductive Address
  | numeric (e : Endpoint)
  | named (host : String) (port : Nat)
deriving DecidableEq, Repr

namespace Address

def portOf? (digits : List Char) : Option Nat :=
  (Decimal.value? digits).filter (· ≤ 65535)

-- A port may have a plus sign and zeros in front.
def port? (text : List Char) : Option Nat :=
  match text with
  | '+' :: digits => portOf? digits
  | _ => portOf? text

-- A long host in brackets, perhaps with the number of its zone.
def bracketed? (text : List Char) : Option Endpoint :=
  match text with
  | '[' :: rest =>
      let inner := rest.takeWhile (· ≠ ']')
      match rest.dropWhile (· ≠ ']') with
      | ']' :: ':' :: digits => do
          let groups ← Ip.groups? (inner.takeWhile (· ≠ '%'))
          let zone ← match inner.dropWhile (· ≠ '%') with
            | [] => some 0
            | _ :: zone => Ip.zone? zone
          return ⟨.long groups zone, ← portOf? digits⟩
      | _ => none
  | _ => none

-- One to four numbers, each in any base that shows in front of it.
def shortHost? (host : List Char) : Option Ip :=
  let parts := host.splitOn '.'
  if parts.all Radix.isWritten then (parts.mapM Radix.value?).bind Ip.ofNumbers? else none

-- Whether a link is named: that of the machine to itself is the one known. A
-- colon and a label may follow the name, in 15 bytes.
def isLoopbackName (text : List Char) : Bool :=
  text.takeWhile (· ≠ ':') = ['l', 'o'] && (String.ofList text).utf8ByteSize ≤ 15

-- The zone of a host that makes sense on one link can be named for the link.
def zoneOf? (groups : List UInt16) (zone : List Char) : Option Nat :=
  if (Ip.isOnLink groups || Ip.isOnLinkMulticast groups) && isLoopbackName zone then some 1
  else Ip.zone? zone

def longHost? (host : List Char) : Option Ip := do
  let groups ← Ip.groups? (host.takeWhile (· ≠ '%'))
  match host.dropWhile (· ≠ '%') with
  | [] => return .long groups 0
  | _ :: zone => return .long groups (← zoneOf? groups zone)

-- The last colon ends the host.
def parse (text : String) : Except SystemFault Address :=
  match bracketed? text.toList with
  | some e => .ok (.numeric e)
  | none =>
      let chars := text.toList.reverse
      match chars.dropWhile (· ≠ ':') with
      | [] => .error .malformedAddress
      | _ :: host =>
          let host := host.reverse
          match port? (chars.takeWhile (· ≠ ':')).reverse with
          | none => .error .malformedPort
          | some port =>
              match shortHost? host <|> longHost? host with
              | some ip => .ok (.numeric ⟨ip, port⟩)
              | none =>
                  if host.contains '\x00' then .error .nulInName
                  else .ok (.named (String.ofList host) port)

end Address

end Rumor
