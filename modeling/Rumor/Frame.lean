import Rumor.WireError

namespace Rumor

-- What a local application and its node say to each other. On the wire a frame
-- starts with its size in bytes, this header included, and its code.
inductive Frame
  | announce (ttl reserved : UInt8) (datatype : UInt16) (payload : Bytes)
  | notify (reserved datatype : UInt16)
  | notification (id datatype : UInt16) (payload : Bytes)
  | validation (id reserved : UInt16)
deriving DecidableEq, Repr

namespace Frame

def headerSize : Nat := 4

-- The largest size that the size field can state.
def maxSize : Nat := 65535

def code : Frame → UInt16
  | .announce .. => 500
  | .notify .. => 501
  | .notification .. => 502
  | .validation .. => 503

def body : Frame → Bytes
  | .announce ttl reserved datatype payload => ttl :: reserved :: Bytes.ofWord datatype ++ payload
  | .notify reserved datatype => Bytes.ofWord reserved ++ Bytes.ofWord datatype
  | .notification id datatype payload => Bytes.ofWord id ++ Bytes.ofWord datatype ++ payload
  | .validation id reserved => Bytes.ofWord id ++ Bytes.ofWord reserved

def size (f : Frame) : Nat :=
  headerSize + f.body.length

def encode (f : Frame) : Except WireError Bytes :=
  if maxSize < f.size then .error (.tooLarge f.size maxSize)
  else .ok (Bytes.ofWord (.ofNat f.size) ++ Bytes.ofWord f.code ++ f.body)

-- A frame that cannot be written leaves the buffer as it was.
def append (buffer : Bytes) (f : Frame) : Option WireError × Bytes :=
  match f.encode with
  | .ok bytes => (none, buffer ++ bytes)
  | .error error => (some error, buffer)

def tooShort (body : Bytes) : WireError :=
  .tooShort (headerSize + body.length)

-- Two of the frames have no room for more than two words.
def ofBody (code : UInt16) (body : Bytes) : Except WireError Frame :=
  let exactly (make : UInt16 → UInt16 → Frame) : Except WireError Frame :=
    match body with
    | [a, b, c, d] => .ok (make (Bytes.word a b) (Bytes.word c d))
    | _ :: _ :: _ :: _ :: _ => .error (.wrongSize (headerSize + body.length) (headerSize + 4))
    | _ => .error (tooShort body)
  if code = 500 then
    match body with
    | ttl :: reserved :: a :: b :: payload => .ok (.announce ttl reserved (Bytes.word a b) payload)
    | _ => .error (tooShort body)
  else if code = 501 then exactly .notify
  else if code = 502 then
    match body with
    | a :: b :: c :: d :: payload => .ok (.notification (Bytes.word a b) (Bytes.word c d) payload)
    | _ => .error (tooShort body)
  else if code = 503 then exactly .validation
  else .error (.unknownKind code.toNat)

-- What a buffer starts with.
inductive Front
  | incomplete
  | frame (f : Frame) (rest : Bytes)
  | fault (error : WireError) (rest : Bytes)
deriving DecidableEq, Repr

-- The first `n` bytes and the rest, if there are that many.
def cut? (n : Nat) (bytes : Bytes) : Option (Bytes × Bytes) :=
  let first := bytes.take n
  if first.length < n then none else some (first, bytes.drop n)

-- A frame that is there but wrong is taken out of the buffer; one that states
-- less than its header is not, since its end is unknown.
def front (buffer : Bytes) : Front :=
  match buffer with
  | a :: b :: c :: d :: rest =>
      let size := (Bytes.word a b).toNat
      if size < headerSize then .fault (.tooShort size) buffer
      else
        match cut? (size - headerSize) rest with
        | none => .incomplete
        | some (body, rest) =>
            match ofBody (Bytes.word c d) body with
            | .ok f => .frame f rest
            | .error error => .fault error rest
  | _ => .incomplete

-- The size that a buffer's header states.
def declared : Bytes → Option Nat
  | a :: b :: _ :: _ :: _ => some (Bytes.word a b).toNat
  | _ => none

-- Nothing more will come, so what is there has to be whole.
def lastFront (buffer : Bytes) : Option Front :=
  match front buffer with
  | .incomplete =>
      if buffer.isEmpty then none
      else
        match declared buffer with
        | none => some (.fault (.tooShort buffer.length) buffer)
        | some size => some (.fault (.wrongSize size buffer.length) buffer)
  | other => some other

theorem cut?_length {n : Nat} {bytes first rest : Bytes} (h : cut? n bytes = some (first, rest)) :
    rest.length ≤ bytes.length := by
  simp only [cut?] at h
  split at h
  · cases h
  · cases h
    simp

theorem front_length {buffer rest : Bytes} {f : Frame} (h : front buffer = .frame f rest) :
    rest.length < buffer.length := by
  unfold front at h
  split at h
  · dsimp only at h
    split at h
    · cases h
    · split at h
      · cases h
      · next hcut =>
        have hlen := cut?_length hcut
        split at h
        · cases h
          simp only [List.length_cons]
          omega
        · cases h
  · cases h

structure Taken where
  frames : List Frame
  error : Option WireError
  rest : Bytes
deriving DecidableEq, Repr

-- Takes frames out of the buffer until none is whole or one is wrong.
def takeAll (buffer : Bytes) (read : List Frame) : Taken :=
  match h : front buffer with
  | .frame f rest =>
      have := front_length h
      takeAll rest (f :: read)
  | .fault error rest => ⟨read.reverse, some error, rest⟩
  | .incomplete => ⟨read.reverse, none, buffer⟩
termination_by buffer.length

-- Takes the frames that the buffer ends with.
def takeLast (buffer : Bytes) : Taken :=
  let taken := takeAll buffer []
  match taken.error with
  | some _ => taken
  | none =>
      match lastFront taken.rest with
      | some (.fault error rest) => ⟨taken.frames, some error, rest⟩
      | _ => taken

end Frame

end Rumor
