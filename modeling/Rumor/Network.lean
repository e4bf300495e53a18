import Rumor.Address
import Rumor.SystemFault
import Rumor.Text.Digits

namespace Rumor.HostName

-- Takes a name apart at its dots; `label` stands newest first. A backslash
-- takes the sense from a character, or has the number of one behind it. Only the
-- last label may be empty.
def labelsFrom (label : List Char) : List Char → Option (List (List Char))
  | [] => some [label.reverse]
  | '.' :: rest =>
      if label.isEmpty then none else (labelsFrom [] rest).map (label.reverse :: ·)
  | '\\' :: a :: b :: c :: rest =>
      if (Decimal.digit? a).isNone then labelsFrom (a :: label) (b :: c :: rest)
      else
        match Decimal.value? [a, b, c] with
        | some n => if n ≤ 255 then labelsFrom (Char.ofNat n :: label) rest else none
        | none => none
  | '\\' :: c :: rest =>
      if (Decimal.digit? c).isNone then labelsFrom (c :: label) rest else none
  | ['\\'] => none
  | c :: rest => labelsFrom (c :: label) rest

def isPlain (c : Char) : Bool :=
  c.isAlphanum || c == '-' || c == '_'

-- Every label goes with its length and an empty one follows, in 255 bytes.
def fits (labels : List (List Char)) : Bool :=
  labels.all (·.length ≤ 63) && labels.foldl (fun size label => size + label.length + 1) 1 ≤ 255

-- Whether a name service can be asked for a name.
def isValid (name : List Char) : Bool :=
  name = ['.'] ||
    match labelsFrom [] name with
    | none => false
    | some labels =>
        let labels := labels.filter (!·.isEmpty)
        !labels.isEmpty && fits labels && labels.all (·.all isPlain) &&
          (labels.head?.bind List.head?) ≠ some '-'

end Rumor.HostName

namespace Rumor

-- The network of a machine that has no link to others: whether its link to
-- itself is up, the names it knows, and the endpoints in use.
structure Network where
  isUp : Bool
  hosts : List (String × Ip)
  inUse : List Endpoint
deriving DecidableEq, Repr

namespace Network

-- Every machine knows its own name for itself.
def start (isUp : Bool) (inUse : List Endpoint) : Network :=
  ⟨isUp, [("localhost", Ip.loopback)], inUse⟩

def isOwn (word : UInt32) : Bool :=
  word >>> 24 = 127 || word = 0

def isSelf (groups : List UInt16) : Bool :=
  groups.dropLast.all (· = 0) && groups.getLast?.any (· ≤ 1)

-- No name service can be reached, so a name that is not known here can only be
-- wrong or left open.
def lookup (n : Network) (host : String) : Except SystemFault Ip :=
  match n.hosts.lookup (host.map Char.toLower) with
  | some ip => .ok ip
  | none => .error (if HostName.isValid host.toList then .noNameService else .unknownHost)

def resolve (n : Network) (address : String) : Except SystemFault Endpoint :=
  match Address.parse address with
  | .error fault => .error fault
  | .ok (.numeric e) => .ok e
  | .ok (.named host port) => (n.lookup host).map fun ip => ⟨ip, port⟩

-- Why no connection can be made to a host, whatever listens there.
def outOfReach? (n : Network) (ip : Ip) : Option SystemFault :=
  match ip.plain with
  | .short word => if n.isUp && isOwn word then none else some .unreachable
  | .long groups zone =>
      if n.isUp && isSelf groups then none
      else if Ip.isMulticast groups then some .unreachable
      else if Ip.isOnLink groups && zone = 0 then some .invalidArgument
      else some (if n.isUp then .unreachable else .addressUnavailable)

-- Why a host cannot be listened on. Without a link every short host passes for
-- the machine's own.
def notOwn? (n : Network) (ip : Ip) : Option SystemFault :=
  match ip.plain with
  | .short word => if n.isUp && !isOwn word then some .addressUnavailable else none
  | .long groups zone =>
      if groups.all (· = 0) || (n.isUp && isSelf groups) then none
      else if Ip.isMulticast groups then some .invalidArgument
      else if Ip.isOnLink groups && zone ≠ 1 then
        some (if zone = 0 then .invalidArgument else .noDevice)
      else some .addressUnavailable

-- Whether what listens on one host also gets what comes to the other.
def covers (a b : Ip) : Bool :=
  match a.plain, b.plain with
  | .short u, .short v => u = v || u = 0
  | .long u y, .long v z => (u = v && y = z) || u.all (· = 0)
  | .long u _, .short _ => u.all (· = 0)
  | .short _, .long .. => false

def clash (a b : Endpoint) : Bool :=
  a.port = b.port && (covers a.ip b.ip || covers b.ip a.ip)

-- The host that is met by going to another: what stands for all of a machine's
-- own leads to the machine itself.
def met (ip : Ip) : Ip :=
  match ip.plain with
  | .short word => if word = 0 then .loopback else .short word
  | .long groups zone =>
      if groups.all (· = 0) then .long [0, 0, 0, 0, 0, 0, 0, 1] zone else .long groups zone

def isServed (n : Network) (e : Endpoint) : Bool :=
  n.inUse.any fun used => used.port = e.port && covers used.ip (met e.ip)

-- What an attempt to connect comes to.
def dial (n : Network) (address : String) : Route :=
  match n.resolve address with
  | .error fault => .failed fault
  | .ok e =>
      match n.outOfReach? e.ip with
      | some fault => .failed fault
      | none => if n.isServed e then .connected else .failed .refused

-- Claims an endpoint to listen on; `free` is the port given to whoever asks for
-- port zero.
def listen (n : Network) (free : Nat) (address : String) : Except SystemFault Endpoint :=
  match n.resolve address with
  | .error fault => .error fault
  | .ok e =>
      match n.notOwn? e.ip with
      | some fault => .error fault
      | none =>
          if e.port = 0 then .ok { e with port := free }
          else if n.inUse.any (clash e) then .error .addressInUse
          else .ok e

def use (n : Network) (e : Endpoint) : Network :=
  { n with inUse := e :: n.inUse }

end Network

end Rumor
