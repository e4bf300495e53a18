import Rumor.Address
import Std.Async.DNS
import Std.Async.TCP
import Std.Async.Timer

namespace Rumor.Live

open Std.Async

abbrev Link := TCP.Socket.Client

def codeOf : IO.Error → Nat
  | .alreadyExists _ code _ | .otherError code _ | .resourceBusy code _ | .resourceVanished code _
  | .unsupportedOperation code _ | .hardwareFault code _ | .unsatisfiedConstraints code _
  | .illegalOperation code _ | .protocolError code _ | .timeExpired code _ | .interrupted _ code _
  | .noFileOrDirectory _ code _ | .invalidArgument _ code _ | .permissionDenied _ code _
  | .resourceExhausted _ code _ | .inappropriateType _ code _ | .noSuchThing _ code _ => code.toNat
  | .unexpectedEof | .userError _ => 0

-- Some codes come as negative numbers of 32 bits.
def faultOf (e : IO.Error) : SystemFault :=
  let code := codeOf e
  (SystemFault.ofCode? (if code < UInt32.size / 2 then code else UInt32.size - code)).getD
    (.other e.toString)

def attempt {α : Type} (act : IO α) : IO (Except SystemFault α) := do
  try
    return .ok (← act)
  catch e =>
    return .error (faultOf e)

-- What fails leaves nothing to be done.
def quietly (act : IO Unit) : IO Unit := do
  discard (attempt act)

-- Runs beside everything else.
def aside (act : IO Unit) : IO Unit := do
  discard (IO.asTask (quietly act) .dedicated)

def ipOf : Std.Net.IPAddr → Ip
  | .v4 a => .short (a.octets.toList.foldl (fun word b => word <<< 8 ||| b.toUInt32) 0)
  | .v6 a => .long a.segments.toList 0

def endpointOf (place : Std.Net.SocketAddress) : Endpoint :=
  ⟨ipOf place.ipAddr, place.port.toNat⟩

-- The socket address of an endpoint. Its zone is left to the system.
def placeOf? (e : Endpoint) : Option Std.Net.SocketAddress :=
  match e.ip with
  | .short word =>
      (Std.Net.IPv4Addr.ofString (Ip.wordText word)).map fun ip => .v4 ⟨ip, .ofNat e.port⟩
  | .long groups _ =>
      (Std.Net.IPv6Addr.ofString (Ip.groupsText groups)).map fun ip => .v6 ⟨ip, .ofNat e.port⟩

-- The endpoints that an address names, by way of the name service if it has to be.
def resolve (address : String) : IO (Except SystemFault (List Endpoint)) := do
  match Address.parse address with
  | .error fault => return .error fault
  | .ok (.numeric e) => return .ok [e]
  | .ok (.named host port) =>
      match ← attempt ((DNS.getAddrInfo host "" none).block) with
      | .error _ => return .error .unknownHost
      | .ok found => return .ok (found.toList.map fun ip => ⟨ipOf ip, port⟩)

-- Tries one endpoint after the other until one will do; `fault` is that of the
-- last one tried.
def firstOf {α : Type} (act : Std.Net.SocketAddress → IO α) (fault : SystemFault) :
    List Endpoint → IO (Except SystemFault α)
  | [] => return .error fault
  | e :: rest => do
      match placeOf? e with
      | none => firstOf act .malformedAddress rest
      | some place =>
          match ← attempt (act place) with
          | .ok a => return .ok a
          | .error fault => firstOf act fault rest

def atAddress {α : Type} (address : String) (act : Std.Net.SocketAddress → IO α) :
    IO (Except SystemFault α) := do
  match ← resolve address with
  | .error fault => return .error fault
  | .ok found => firstOf act .unknownHost found

def dial (address : String) : IO (Except SystemFault Link) :=
  atAddress address fun place => do
    let link ← TCP.Socket.Client.mk
    (link.connect place).block
    return link

def listen (address : String) : IO (Except SystemFault (TCP.Socket.Server × Endpoint)) :=
  atAddress address fun place => do
    let server ← TCP.Socket.Server.mk
    server.bind place
    server.listen 1024
    return (server, endpointOf (← server.getSockName))

def write (link : Link) (bytes : Bytes) : IO Unit :=
  if bytes.isEmpty then pure () else (link.send (ByteArray.mk bytes.toArray)).block

def finish (link : Link) : IO Unit :=
  quietly link.shutdown.block

-- What comes next: nothing once the other side has ended. `none` if that takes
-- until the deadline.
def next (link : Link) (deadline : Option Nat) : IO (Option Bytes) := do
  let bytesOf (got : Option ByteArray) : Bytes := (got.map fun b => b.toList).getD []
  match deadline with
  | none => return some (bytesOf (← (link.recv? 65536).block))
  | some deadline =>
      let left := deadline - (← IO.monoMsNow)
      let wait ← (Selector.sleep (.ofNat left)).block
      (Selectable.one #[
        .case (link.recvSelector 65536) fun got => pure (some (bytesOf got)),
        .case wait fun _ => pure none]).block

-- The most that is read of an answer.
def answerLimit : Nat := 16777216

-- Reads to the end or until there are `limit` bytes. `read` stands newest
-- first.
partial def readTo (link : Link) (limit : Nat) (deadline : Option Nat) (read : List Bytes) :
    IO (Option Bytes) := do
  match ← next link deadline with
  | none => return none
  | some bytes =>
      if bytes.isEmpty then return some read.reverse.flatten
      else if limit ≤ bytes.length then return some (bytes.take limit :: read).reverse.flatten
      else readTo link (limit - bytes.length) deadline (bytes :: read)

end Rumor.Live
