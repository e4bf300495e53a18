import Rumor.Domain
import Rumor.Ip
import Rumor.Text.Digits
import Rumor.Text.Utf8

namespace Rumor.Registry.Percent

-- A byte as a percent sign and two capital digits.
def escape (b : UInt8) : List Char :=
  '%' :: (Hex.byte b).map Char.toUpper

-- Text with the bytes escaped that do not stand for themselves.
def encode (isRaw : UInt8 → Bool) (text : List Char) : List Char :=
  (Utf8.encode (String.ofList text)).flatMap fun b =>
    if isRaw b then [Char.ofNat b.toNat] else escape b

-- The bytes of a text with its escapes taken out. A percent sign that no two
-- digits follow stands for itself.
def bytes : List Char → Bytes
  | '%' :: a :: b :: rest =>
      match Radix.digit? 16 a, Radix.digit? 16 b with
      | some high, some low => .ofNat (16 * high + low) :: bytes rest
      | _, _ => 0x25 :: bytes (a :: b :: rest)
  | c :: rest => Utf8.encodeChar c ++ bytes rest
  | [] => []

def decode? (text : List Char) : Option (List Char) :=
  (Utf8.decode (bytes text)).toOption.map String.toList

end Rumor.Registry.Percent

namespace Rumor.Registry.Form

def isPlain (b : UInt8) : Bool :=
  (Char.ofNat b.toNat).isAlphanum || b == 0x2A || b == 0x2D || b == 0x2E || b == 0x5F

def encodeByte (b : UInt8) : List Char :=
  if isPlain b then [Char.ofNat b.toNat]
  else if b = 0x20 then ['+']
  else Percent.escape b

-- Text as the value of a form field.
def encode (text : String) : String :=
  String.ofList ((Utf8.encode text).flatMap encodeByte)

def pair (name value : String) : String :=
  encode name ++ "=" ++ encode value

def contentType : String :=
  "application/x-www-form-urlencoded"

end Rumor.Registry.Form

namespace Rumor.Registry.Host

-- The last part of a name that says something, a dot at the end left aside.
def lastPart (parts : List (List Char)) : List Char :=
  match parts.reverse with
  | [] :: before :: _ => before
  | last :: _ => last
  | [] => []

def isDigits (part : List Char) : Bool :=
  !part.isEmpty && part.all Char.isDigit

-- Whether a name can only be meant as a numeric host.
def isNumeric (name : List Char) : Bool :=
  let last := lastPart (name.splitOn '.')
  isDigits last || (Radix.value? last).isSome

def numeric? (name : List Char) : Option Ip :=
  let parts := name.splitOn '.'
  let parts := if parts.getLast? = some [] then parts.dropLast else parts
  (parts.mapM Radix.value?).bind Ip.ofNumbers?

def bracketed? (text : List Char) : Option String :=
  if text.getLast? = some ']' then
    (Ip.groups? text.dropLast).map fun groups => "[" ++ Ip.groupsText groups ++ "]"
  else none

-- The one spelling of the host of a web address.
def ofText? (text : List Char) : Option String :=
  match text with
  | '[' :: rest => bracketed? rest
  | _ => do
      let name ← Domain.ofName? (← Percent.decode? text)
      if name.isEmpty then none
      else if isNumeric name.toList then (numeric? name.toList).map Ip.text
      else some name

end Rumor.Registry.Host

namespace Rumor.Registry

-- A name and a password that go with an address.
structure Credentials where
  name : String
  password : String
deriving DecidableEq, Repr

-- As they stand in front of a host.
def Credentials.text (c : Credentials) : String :=
  if c.password ≠ "" then c.name ++ ":" ++ c.password ++ "@"
  else if c.name ≠ "" then c.name ++ "@"
  else ""

def Credentials.empty : Credentials :=
  ⟨"", ""⟩

-- The parts of an `http` address. The fragment is for the reader of a page and is
-- not sent.
structure Url where
  credentials : Credentials
  host : String
  port : Option Nat
  path : String
  query : Option String
  fragment : Option String
deriving DecidableEq, Repr

namespace Url

def isSlash (c : Char) : Bool :=
  c == '/' || c == '\\'

def isControlOrBlank (c : Char) : Bool :=
  c.toNat ≤ 0x20

-- Controls and blanks around the address, and tabs and line ends in it, are
-- dropped.
def clean (text : List Char) : List Char :=
  let front := text.dropWhile isControlOrBlank
  let inner := (front.reverse.dropWhile isControlOrBlank).reverse
  inner.filter fun c => c != '\t' && c != '\n' && c != '\r'

def isRawBut (escaped : String) (b : UInt8) : Bool :=
  0x21 ≤ b && b ≤ 0x7E && !(Bytes.ascii escaped).contains b

def rawInPath : UInt8 → Bool :=
  isRawBut "\"#<>?`\x7b\x7d"

def rawInQuery : UInt8 → Bool :=
  isRawBut "\"#<>'"

def rawInFragment : UInt8 → Bool :=
  isRawBut "\"<>`"

def rawInCredentials : UInt8 → Bool :=
  isRawBut "\"#<>?`\x7b\x7d/:;=@[\\]^|"

def encode (isRaw : UInt8 → Bool) (text : List Char) : String :=
  String.ofList (Percent.encode isRaw text)

def lower (text : List Char) : String :=
  String.ofList (text.map Char.toLower)

-- A dot may be spelled as an escape.
def isHere (segment : List Char) : Bool :=
  [".", "%2e"].contains (lower segment)

def isAbove (segment : List Char) : Bool :=
  ["..", ".%2e", "%2e.", "%2e%2e"].contains (lower segment)

-- A letter that names a drive is not left by going up.
def isDrive (segment : List Char) : Bool :=
  match segment with
  | [c, mark] => c.isAlpha && (mark == ':' || mark == '|')
  | _ => false

-- Cuts at every slash of either kind; there is one segment at least.
def segments (text : List Char) : List (List Char) :=
  text.splitOnP isSlash

def above : List (List Char) → List (List Char)
  | [] => []
  | s :: read => if isDrive s then s :: read else read

-- Resolves segments that name the place itself or the one above it; `read`
-- stands newest first. Such a segment at the end leaves an empty one.
def resolve (read : List (List Char)) : List (List Char) → List (List Char)
  | [] => read.reverse
  | s :: rest =>
      if isAbove s then resolve (if rest.isEmpty then [] :: above read else above read) rest
      else if isHere s then resolve (if rest.isEmpty then [] :: read else read) rest
      else resolve (s :: read) rest

def pathOf (text : List Char) : String :=
  let parts := match text with
    | [] => [[]]
    | _ :: rest => resolve [] (segments rest)
  String.ofList (parts.flatMap fun s => '/' :: Percent.encode rawInPath s)

-- The text in front of the first `mark`, and what follows it if there is one.
def cut (mark : Char) (text : List Char) : List Char × Option (List Char) :=
  match text.dropWhile (· ≠ mark) with
  | [] => (text, none)
  | _ :: rest => (text.takeWhile (· ≠ mark), some rest)

def credentialsOf (text : List Char) : Credentials :=
  let (name, password) := cut ':' text
  ⟨encode rawInCredentials name, encode rawInCredentials (password.getD [])⟩

-- What stands in front of the last `@`, and the host behind it.
def cutCredentials (authority : List Char) : Credentials × List Char :=
  let place := (authority.reverse.takeWhile (· ≠ '@')).reverse
  (credentialsOf (authority.reverse.dropWhile (· ≠ '@')).reverse.dropLast, place)

-- The text in front of the first colon outside brackets, and behind it.
def cutPort (inBrackets : Bool) (read : List Char) : List Char → List Char × List Char
  | [] => (read.reverse, [])
  | c :: rest =>
      if c = ':' ∧ !inBrackets then (read.reverse, rest)
      else cutPort (c = '[' || (inBrackets && c ≠ ']')) (c :: read) rest

def defaultPort : Nat := 80

-- The usual port is left out, and may be left empty.
def port? (digits : List Char) : Option (Option Nat) :=
  if digits.isEmpty then some none
  else
    match Decimal.value? digits with
    | some n => if 65535 < n then none else some (if n = defaultPort then none else some n)
    | none => none

def parse? (text : String) : Option Url :=
  let text := clean text.toList
  if lower (text.take 5) = "http:" then do
    let (sent, fragment) := cut '#' ((text.drop 5).dropWhile isSlash)
    let (place, query) := cut '?' sent
    let authority := place.takeWhile fun c => !isSlash c
    let (credentials, hostPort) := cutCredentials authority
    let (host, digits) := cutPort false [] hostPort
    return {
      credentials
      host := ← Host.ofText? host
      port := ← port? digits
      path := pathOf (place.dropWhile fun c => !isSlash c)
      query := query.map (encode rawInQuery)
      fragment := fragment.map (encode rawInFragment) }
  else none

-- Adds a pair to the query.
def withPair (url : Url) (name value : String) : Url :=
  let pair := Form.pair name value
  { url with query := some (match url.query with
      | none | some "" => pair
      | some query => query ++ "&" ++ pair) }

def target (url : Url) : String :=
  match url.query with
  | none => url.path
  | some query => url.path ++ "?" ++ query

-- The host, and the port if it is not the usual one.
def authority (url : Url) : String :=
  match url.port with
  | none => url.host
  | some port => url.host ++ ":" ++ Decimal.ofNat port

-- Where the address is served.
def address (url : Url) : String :=
  url.host ++ ":" ++ Decimal.ofNat (url.port.getD defaultPort)

def text (url : Url) : String :=
  let fragment := match url.fragment with
    | none => ""
    | some fragment => "#" ++ fragment
  "http://" ++ url.credentials.text ++ url.authority ++ url.target ++ fragment

def decoded? (text : String) : Option String :=
  (Percent.decode? text.toList).map String.ofList

-- The credentials that can be sent, if there are any: a name has to be text, and
-- a password alone has to be as well. Any other password is left out.
def login? (url : Url) : Option Credentials :=
  let password := if url.credentials.password = "" then none else decoded? url.credentials.password
  match decoded? url.credentials.name with
  | none => none
  | some name =>
      if name = "" && password.isNone then none else some ⟨name, password.getD ""⟩

-- Credentials that are sent are no longer part of the address.
def withoutLogin (url : Url) : Url :=
  if url.login?.isSome then { url with credentials := .empty } else url

-- The most that is taken for an address.
def maxSize : Nat := 65534

-- Whether a request can be made to an address.
def isUsable (url : Url) : Bool :=
  !url.host.toList.any (fun c => c == '"' || c == '\x60' || c == '\x7b' || c == '\x7d') &&
    url.text.utf8ByteSize ≤ maxSize

end Url

end Rumor.Registry
