import Rumor.Text.Digits
import Rumor.Text.Utf8

namespace Rumor

-- How the value of a record field is laid out.
inductive WireType
  | varint
  | fixed64
  | delimited
  | startGroup
  | endGroup
  | fixed32
deriving DecidableEq, Repr

def WireType.name : WireType → String
  | .varint => "Varint"
  | .fixed64 => "SixtyFourBit"
  | .delimited => "LengthDelimited"
  | .startGroup => "StartGroup"
  | .endGroup => "EndGroup"
  | .fixed32 => "ThirtyTwoBit"

inductive Field
  | kind
  | sender
  | payload
  | ttl
  | id
  | nonce
deriving DecidableEq, Repr

def Field.name : Field → String
  | .kind => "kind"
  | .sender => "from"
  | .payload => "payload"
  | .ttl => "ttl"
  | .id => "message_id"
  | .nonce => "nonce"

inductive RecordFault
  | varint
  | underflow
  | overrun
  | key (value : Nat)
  | wireTypeCode (code : Nat)
  | zeroTag
  | wireType (got want : WireType)
  | notUtf8
  | endGroup
  | tooDeep
deriving DecidableEq, Repr

def RecordFault.message : RecordFault → String
  | .varint => "invalid varint"
  | .underflow => "buffer underflow"
  | .overrun => "delimited length exceeded"
  | .key value => s!"invalid key value: {Decimal.ofNat value}"
  | .wireTypeCode code => s!"invalid wire type value: {Decimal.ofNat code}"
  | .zeroTag => "invalid tag value: 0"
  | .wireType got want => s!"invalid wire type: {got.name} (expected {want.name})"
  | .notUtf8 => "invalid string value: data is not UTF-8 encoded"
  | .endGroup => "unexpected end group tag"
  | .tooDeep => "recursion limit reached"

-- Why bytes could not be read as what they should hold.
inductive DecodeCause
  | address (fault : Utf8.Fault)
  | emptyAddress
  | addressList
  | record (field : Option Field) (fault : RecordFault)
deriving DecidableEq, Repr

def DecodeCause.message : DecodeCause → String
  | .address fault => s!"peer address: {fault.message}"
  | .emptyAddress => "empty peer address"
  | .addressList => "peer list"
  | .record field fault =>
      let place := match field with
        | some f => s!"GossipMessage.{f.name}: "
        | none => ""
      s!"gossip message: failed to decode Protobuf message: {place}{fault.message}"

inductive WireError
  | undecodable (cause : DecodeCause)
  | unknownKind (code : Int)
  | tooShort (size : Nat)
  | wrongSize (declared expected : Nat)
  | tooLarge (size max : Nat)
deriving DecidableEq, Repr

def WireError.message : WireError → String
  | .undecodable cause => s!"decoding error: {cause.message}"
  | .unknownKind code => s!"unknown message type {Decimal.ofInt code}"
  | .tooShort size => s!"message too short: {Decimal.ofNat size} bytes"
  | .wrongSize declared expected =>
      s!"wrong message size: declared {Decimal.ofNat declared}, expected {Decimal.ofNat expected}"
  | .tooLarge size max =>
      s!"message too large: {Decimal.ofNat size} bytes (max {Decimal.ofNat max})"

end Rumor
