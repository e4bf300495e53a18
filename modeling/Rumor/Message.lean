import Rumor.Json.Printer
import Rumor.Json.Value
import Rumor.Text.Digits
import Rumor.WireError

namespace Rumor

-- What a message is about. Four codes are kept for peer discovery; every other
-- 16-bit code is the datatype of application data.
inductive Kind
  | data (datatype : UInt16)
  | join
  | leave
  | listRequest
  | listResponse
deriving DecidableEq, Repr

namespace Kind

def code : Kind → Int32
  | .data datatype => .ofNat datatype.toNat
  | .join => 511
  | .leave => 512
  | .listRequest => 513
  | .listResponse => 514

def ofCode? (code : Int32) : Option Kind :=
  if code = 511 then some .join
  else if code = 512 then some .leave
  else if code = 513 then some .listRequest
  else if code = 514 then some .listResponse
  else if 0 ≤ code ∧ code ≤ 65535 then some (.data (.ofNat code.toNatClampNeg))
  else none

def ofCode (code : Int32) : Except WireError Kind :=
  match ofCode? code with
  | some kind => .ok kind
  | none => .error (.unknownKind code.toInt)

def isDiscovery : Kind → Bool
  | .data _ => false
  | _ => true

-- Data under one of the discovery codes would be read as discovery.
def reserved (datatype : UInt16) : Bool :=
  511 ≤ datatype && datatype ≤ 514

end Kind

abbrev MessageId := UInt64

namespace MessageId

def text (id : MessageId) : String :=
  String.ofList (Hex.fixed 16 id.toNat)

-- Subscribers see the low 16 bits only.
def short (id : MessageId) : UInt16 :=
  id.toUInt16

end MessageId

structure Message where
  kind : Int32 := 0
  sender : String := ""
  payload : Bytes := []
  ttl : Int32 := 0
  id : MessageId := 0
  nonce : UInt64 := 0
deriving DecidableEq, Repr

namespace Message

def kind? (m : Message) : Option Kind :=
  Kind.ofCode? m.kind

def data (id : MessageId) (sender : String) (datatype : UInt16) (payload : Bytes)
    (ttl : Int32) : Message :=
  { kind := (Kind.data datatype).code, sender, payload, ttl, id }

def join (id : MessageId) (address : String) (ttl : Int32) : Message :=
  { kind := Kind.join.code, sender := address, payload := Utf8.encode address, ttl, id }

def leave (id : MessageId) (address : String) (ttl : Int32) : Message :=
  { kind := Kind.leave.code, sender := address, payload := Utf8.encode address, ttl, id }

def listRequest (id : MessageId) (sender : String) : Message :=
  { kind := Kind.listRequest.code, sender, ttl := 1, id }

def listResponse (id : MessageId) (sender : String) (peers : List String) : Message :=
  { kind := Kind.listResponse.code
    sender
    payload := (Json.Item.texts peers).compact
    ttl := 1
    id }

-- The address that a join or leave names.
def address (m : Message) : Except WireError String :=
  match Utf8.decode m.payload with
  | .error fault => .error (.undecodable (.address fault))
  | .ok address => if address = "" then .error (.undecodable .emptyAddress) else .ok address

-- The addresses that a list response carries.
def addresses (m : Message) : Except WireError (List String) :=
  match (Json.Value.parse? m.payload).bind Json.Value.texts? with
  | some list => .ok list
  | none => .error (.undecodable .addressList)

def text (m : Message) : String :=
  let kind := Decimal.ofInt m.kind.toInt
  let ttl := Decimal.ofInt m.ttl.toInt
  let length := Decimal.ofNat m.payload.length
  s!"GossipMessage(id={m.id.text}, kind={kind}, from={m.sender}, ttl={ttl}, {length} bytes)"

end Message

end Rumor
