import Rumor.Registry.Client
import Rumor.Text.Digits

namespace Rumor.Registry

def Credentials.header (c : Credentials) : String :=
  "authorization: Basic " ++
    String.ofList (Base64.encode (Utf8.encode (c.name ++ ":" ++ c.password)))

-- The headers of a request.
def Request.headers (r : Request) : List String :=
  let size := r.body.utf8ByteSize
  [s!"host: {r.url.authority}", "accept: */*", "connection: close"] ++
    (r.login.map Credentials.header).toList ++
    (if r.contentType = "" then [] else [s!"content-type: {r.contentType}"]) ++
    if r.method = "GET" then [] else [s!"content-length: {Decimal.ofNat size}"]

-- A request as it goes over a connection of its own.
def Request.bytes (r : Request) : Bytes :=
  let lines := (r.line ++ " HTTP/1.1") :: r.headers ++ [""]
  Utf8.encode (String.join (lines.map (· ++ "\r\n")) ++ r.body)

namespace Reply

-- The bytes in front of the first line end, and those behind it.
def cutLine (read : Bytes) : Bytes → Option (Bytes × Bytes)
  | [] => none
  | 0x0D :: 0x0A :: rest => some (read.reverse, rest)
  | b :: rest => cutLine (b :: read) rest

-- Lines up to the first empty one, and what follows that; `count` bounds their
-- number.
def cutHead (count : Nat) (bytes : Bytes) : Option (List Bytes × Bytes) :=
  match count with
  | 0 => none
  | count + 1 =>
      match cutLine [] bytes with
      | none => none
      | some ([], rest) => some ([], rest)
      | some (line, rest) => (cutHead count rest).map fun (lines, body) => (line :: lines, body)

def lower (b : UInt8) : UInt8 :=
  if 0x41 ≤ b ∧ b ≤ 0x5A then b + 0x20 else b

def isGap (b : UInt8) : Bool :=
  b == 0x20 || b == 0x09

-- A header's name and value, without regard to case.
def header (line : Bytes) : Bytes × Bytes :=
  let line := line.map lower
  let value := (line.dropWhile (· ≠ 0x3A)).drop 1
  (line.takeWhile (· ≠ 0x3A), ((value.dropWhile isGap).reverse.dropWhile isGap).reverse)

def number? (bytes : Bytes) : Option Nat :=
  Decimal.value? (bytes.map fun b => Char.ofNat b.toNat)

-- Takes a body out of its chunks; `count` bounds their number.
def unchunk (count : Nat) (bytes : Bytes) : Option Bytes :=
  match count with
  | 0 => none
  | count + 1 =>
      match cutLine [] bytes with
      | none => none
      | some (line, rest) =>
          let digits := (line.takeWhile (· ≠ 0x3B)).filterMap Hex.digit?
          let size := digits.foldl (fun n d => 16 * n + d) 0
          if digits.isEmpty || rest.length < size then none
          else if size = 0 then some []
          else (unchunk count (rest.drop (size + 2))).map (rest.take size ++ ·)

-- The body that the headers announce. Without a size it ends with the
-- connection.
def bodyOf (headers : List (Bytes × Bytes)) (bytes : Bytes) : Option Bytes :=
  if headers.lookup (Bytes.ascii "transfer-encoding") = some (Bytes.ascii "chunked") then
    unchunk (bytes.length + 1) bytes
  else
    match headers.lookup (Bytes.ascii "content-length") with
    | none => some bytes
    | some size =>
        match number? size with
        | some n => if bytes.length < n then none else some (bytes.take n)
        | none => none

-- What a connection brought until it ended. An answer that is cut off or makes
-- no sense counts as none.
def ofBytes (bytes : Bytes) : Reply :=
  match cutHead (bytes.length + 1) bytes with
  | some (first :: lines, rest) =>
      let code := ((first.dropWhile (· ≠ 0x20)).drop 1).takeWhile (· ≠ 0x20)
      match number? code, bodyOf (lines.map header) rest with
      | some code, some body => .answered ⟨code⟩ body
      | _, _ => .dropped
  | _ => .dropped

end Reply

end Rumor.Registry
