import Rumor.Bytes
import Rumor.Message
import Rumor.WireError

namespace Rumor.Varint

-- Seven bits a byte, lowest first; the high bit says that more follow.
def encode (n : Nat) : Bytes :=
  if n < 128 then [.ofNat n] else .ofNat (128 + n % 128) :: encode (n / 128)
termination_by n

-- No longer encoding is read, so a value has at most 64 bits.
def maxLength : Nat := 10

-- Reads at most `left` bytes. Forms longer than needed are accepted. The last
-- byte that may be read has room for one bit only.
def readWithin : Nat → (input : Input) → Option (Nat × input.Rest)
  | 0, _ => none
  | left + 1, input =>
      match input.next? with
      | none => none
      | some (b, rest) =>
          if b < 128 then
            if left = 0 ∧ 1 < b then none else some (b.toNat, rest)
          else
            match readWithin left rest.val with
            | none => none
            | some (high, last) =>
                some (b.toNat % 128 + 128 * high, Input.Rest.next rest last)

def read (input : Input) : Option (Nat × input.Rest) :=
  readWithin maxLength input

end Rumor.Varint

namespace Rumor.Record

-- The longest record that is read.
def maxSize : Nat := 65536

def tag : Field → Nat
  | .kind => 1
  | .sender => 2
  | .payload => 3
  | .ttl => 4
  | .id => 5
  | .nonce => 6

def field? (tag : Nat) : Option Field :=
  match tag with
  | 1 => some .kind
  | 2 => some .sender
  | 3 => some .payload
  | 4 => some .ttl
  | 5 => some .id
  | 6 => some .nonce
  | _ => none

def wireTypeCode : WireType → Nat
  | .varint => 0
  | .fixed64 => 1
  | .delimited => 2
  | .startGroup => 3
  | .endGroup => 4
  | .fixed32 => 5

def wireType? (code : Nat) : Option WireType :=
  match code with
  | 0 => some .varint
  | 1 => some .fixed64
  | 2 => some .delimited
  | 3 => some .startGroup
  | 4 => some .endGroup
  | 5 => some .fixed32
  | _ => none

def key (tag : Nat) (wireType : WireType) : Bytes :=
  Varint.encode (8 * tag + wireTypeCode wireType)

-- A field that holds its default value is left out.
def varintField (field : Field) (value : Nat) : Bytes :=
  if value = 0 then [] else key (tag field) .varint ++ Varint.encode value

def bytesField (field : Field) (value : Bytes) : Bytes :=
  if value.isEmpty then []
  else key (tag field) .delimited ++ Varint.encode value.length ++ value

-- A negative number is written as the 64-bit word of the same value.
def word (n : Int32) : Nat :=
  n.toInt64.toUInt64.toNat

def body (m : Message) : Bytes :=
  varintField .kind (word m.kind) ++ bytesField .sender (Utf8.encode m.sender) ++
    bytesField .payload m.payload ++ varintField .ttl (word m.ttl) ++
    varintField .id m.id.toNat ++ varintField .nonce m.nonce.toNat

def encode (m : Message) : Bytes :=
  let body := body m
  Varint.encode body.length ++ body

structure Key where
  tag : Nat
  wireType : WireType
deriving DecidableEq, Repr

def readVarint (input : Input) : Except RecordFault (Nat × input.Rest) :=
  match Varint.read input with
  | none => .error .varint
  | some r => .ok r

def readKey (input : Input) : Except RecordFault (Key × input.Rest) :=
  match readVarint input with
  | .error fault => .error fault
  | .ok (value, rest) =>
      if UInt32.size ≤ value then .error (.key value)
      else
        match wireType? (value % 8) with
        | none => .error (.wireTypeCode (value % 8))
        | some wireType =>
            if value / 8 = 0 then .error .zeroTag
            else .ok (⟨value / 8, wireType⟩, rest)

def takeBytes (n : Nat) (input : Input) : Except RecordFault (Bytes × input.Tail) :=
  match input.take? n with
  | none => .error .underflow
  | some r => .ok r

def readDelimited (input : Input) : Except RecordFault (Bytes × input.Rest) :=
  match readVarint input with
  | .error fault => .error fault
  | .ok (length, rest) =>
      match takeBytes length rest.val with
      | .error fault => .error fault
      | .ok (bytes, last) => .ok (bytes, Input.Rest.tail rest last)

-- Passes over a value that is no group.
def skipPlain (wireType : WireType) (input : Input) : Except RecordFault input.Tail :=
  match wireType with
  | .varint =>
      match readVarint input with
      | .error fault => .error fault
      | .ok (_, rest) => .ok (Input.Rest.toTail rest)
  | .fixed64 => (takeBytes 8 input).map Prod.snd
  | .fixed32 => (takeBytes 4 input).map Prod.snd
  | .delimited =>
      match readDelimited input with
      | .error fault => .error fault
      | .ok (_, rest) => .ok (Input.Rest.toTail rest)
  | .startGroup => .ok ⟨input, Nat.le_refl _⟩
  | .endGroup => .error .endGroup

-- No value inside this many unknown groups is passed over.
def maxDepth : Nat := 99

-- Passes over what is left of the open groups, given by their tags, innermost
-- first.
def closeGroups {whole : Input} (groups : List Nat) (input : whole.Tail) :
    Except RecordFault whole.Tail :=
  match groups with
  | [] => .ok input
  | group :: outer =>
      match readKey input.val with
      | .error fault => .error fault
      | .ok (key, rest) =>
          let inside : whole.Tail :=
            ⟨rest.val, Nat.le_trans (Nat.le_of_lt rest.property) input.property⟩
          match key.wireType with
          | .endGroup =>
              if key.tag = group then closeGroups outer inside else .error .endGroup
          | .startGroup =>
              if maxDepth ≤ groups.length then .error .tooDeep
              else closeGroups (key.tag :: groups) inside
          | plain =>
              if maxDepth ≤ groups.length then .error .tooDeep
              else
                match skipPlain plain rest.val with
                | .error fault => .error fault
                | .ok last => closeGroups groups ⟨last.val, Nat.le_trans last.property inside.property⟩
termination_by input.val.size
decreasing_by
  · exact rest.property
  · exact rest.property
  · exact Nat.lt_of_le_of_lt last.property rest.property

def skip (key : Key) (input : Input) : Except RecordFault input.Tail :=
  match key.wireType with
  | .startGroup => closeGroups [key.tag] ⟨input, Nat.le_refl _⟩
  | plain => skipPlain plain input

def ofWord (value : Nat) : Int32 :=
  (UInt32.ofNat value).toInt32

-- Reads the value of a known field into `m`.
def readField (m : Message) (field : Field) (wireType : WireType) (input : Input) :
    Except RecordFault (Message × input.Rest) :=
  let number (store : Nat → Message) : Except RecordFault (Message × input.Rest) :=
    if wireType = .varint then (readVarint input).map fun (value, rest) => (store value, rest)
    else .error (.wireType wireType .varint)
  let string (store : Bytes → Except RecordFault Message) :
      Except RecordFault (Message × input.Rest) :=
    if wireType = .delimited then
      match readDelimited input with
      | .error fault => .error fault
      | .ok (bytes, rest) => (store bytes).map fun m => (m, rest)
    else .error (.wireType wireType .delimited)
  match field with
  | .kind => number fun value => { m with kind := ofWord value }
  | .sender => string fun bytes =>
      match Utf8.decode bytes with
      | .ok sender => .ok { m with sender }
      | .error _ => .error .notUtf8
  | .payload => string fun payload => .ok { m with payload }
  | .ttl => number fun value => { m with ttl := ofWord value }
  | .id => number fun value => { m with id := .ofNat value }
  | .nonce => number fun value => { m with nonce := .ofNat value }

abbrev Failure := Option Field × RecordFault

def readAny (m : Message) (input : Input) : Except Failure (Message × input.Rest) :=
  match readKey input with
  | .error fault => .error (none, fault)
  | .ok (key, rest) =>
      match field? key.tag with
      | some field =>
          match readField m field key.wireType rest.val with
          | .error fault => .error (some field, fault)
          | .ok (m, last) => .ok (m, Input.Rest.next rest last)
      | none =>
          match skip key rest.val with
          | .error fault => .error (none, fault)
          | .ok last => .ok (m, Input.Rest.tail rest last)

-- Reads fields until `after` bytes or fewer are left. The end of the record is
-- looked at between fields only, so a field may read on past it, which is then
-- a fault of its own.
def readFields (after : Nat) (m : Message) (input : Input) : Except Failure Message :=
  if after < input.size then
    match readAny m input with
    | .error failure => .error failure
    | .ok (m, rest) => readFields after m rest.val
  else if input.size = after then .ok m
  else .error (none, .overrun)
termination_by input.size
decreasing_by exact rest.property

def read (input : Input) : Except Failure Message :=
  match readVarint input with
  | .error fault => .error (none, fault)
  | .ok (length, rest) =>
      if rest.val.size < length then .error (none, .underflow)
      else readFields (rest.val.size - length) {} rest.val

-- What stands after the record is ignored. The kind is looked at last.
def decode (bytes : Bytes) : Except WireError Message :=
  let input := Input.ofBytes bytes
  if maxSize < input.size then .error (.tooLarge input.size maxSize)
  else
    match read input with
    | .error (field, fault) => .error (.undecodable (.record field fault))
    | .ok m =>
        match Kind.ofCode m.kind with
        | .ok _ => .ok m
        | .error error => .error error

end Rumor.Record
