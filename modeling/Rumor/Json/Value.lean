import Rumor.Json.Quoted

namespace Rumor.Json

-- Strings and numbers stay as written, so that a value nobody asks for need
-- not make sense.
inductive Value
  | null
  | bool (value : Bool)
  | number (text : Bytes)
  | string (raw : Bytes)
  | array (items : List Value)
  | object (members : List (Bytes × Value))

namespace Value

-- An open array or object; what it holds so far stands newest first. A
-- `member` waits for the value of its key.
inductive Frame
  | items (read : List Value)
  | members (read : List (Bytes × Value))
  | member (read : List (Bytes × Value)) (key : Bytes)

-- What may come next.
inductive Mode
  | value
  | first
  | after
  | key
  | colon

inductive Parse
  | going (mode : Mode) (stack : List Frame)
  | done (value : Value)

def put (value : Value) : List Frame → Option Parse
  | [] => some (.done value)
  | .items read :: stack => some (.going .after (.items (value :: read) :: stack))
  | .member read key :: stack => some (.going .after (.members ((key, value) :: read) :: stack))
  | .members _ :: _ => none

def start (stack : List Frame) : Token → Option Parse
  | .openArray => some (.going .first (.items [] :: stack))
  | .openObject => some (.going .first (.members [] :: stack))
  | .null => put .null stack
  | .bool b => put (.bool b) stack
  | .number text => put (.number text) stack
  | .string raw => put (.string raw) stack
  | _ => none

def close (stack : List Frame) : Token → Option Parse
  | .closeArray =>
      match stack with
      | .items read :: outer => put (.array read.reverse) outer
      | _ => none
  | .closeObject =>
      match stack with
      | .members read :: outer => put (.object read.reverse) outer
      | _ => none
  | _ => none

def key (stack : List Frame) : Token → Option Parse
  | .string raw =>
      match stack with
      | .members read :: outer => some (.going .colon (.member read raw :: outer))
      | _ => none
  | _ => none

def Parse.step (p : Parse) (token : Token) : Option Parse :=
  match p with
  | .done _ => none
  | .going .value stack => start stack token
  | .going .first stack =>
      match token with
      | .closeArray | .closeObject => close stack token
      | _ =>
          match stack with
          | .members _ :: _ => key stack token
          | _ => start stack token
  | .going .after stack =>
      match token with
      | .comma =>
          match stack with
          | .items _ :: _ => some (.going .value stack)
          | _ => some (.going .key stack)
      | _ => close stack token
  | .going .key stack => key stack token
  | .going .colon stack => if token = .colon then some (.going .value stack) else none

def ofTokens? (tokens : List Token) : Option Value :=
  match tokens.foldlM Parse.step (.going .value []) with
  | some (.done value) => some value
  | _ => none

def parse? (bytes : Bytes) : Option Value :=
  (Token.ofBytes? bytes).bind ofTokens?

def text? : Value → Option String
  | .string raw => Quoted.decode raw
  | _ => none

def texts? : Value → Option (List String)
  | .array items => items.mapM text?
  | _ => none

def natural? (text : Bytes) : Option Nat :=
  if text.all Token.isDigit then
    some (text.foldl (fun n b => 10 * n + (b.toNat - 0x30)) 0)
  else none

-- An integer is written without fraction and exponent; minus zero is none.
def integer? : Value → Option Int
  | .number (0x2D :: digits) =>
      match natural? digits with
      | some (n + 1) => some (.negSucc n)
      | _ => none
  | .number text => (natural? text).map Int.ofNat
  | _ => none

-- The value of a key that may stand once at most.
def once? (name : String) (members : List (String × Value)) : Option (Option Value) :=
  match members.filter (fun m => m.1 = name) with
  | [] => some none
  | [(_, value)] => some (some value)
  | _ => none

-- The values of the named members, in the order of `names`. Members of other
-- names are passed over, whatever they hold. An array stands for the members in
-- order and may stop early.
def members? (names : List String) : Value → Option (List (Option Value))
  | .object members => do
      let named ← members.mapM fun (raw, value) => (Quoted.decode raw).map (·, value)
      names.mapM (once? · named)
  | .array items =>
      if items.length ≤ names.length then
        some (items.map some ++ List.replicate (names.length - items.length) none)
      else none
  | _ => none

-- A member that is not given keeps `default`.
def readOr {α : Type} (default : α) (read : Value → Option α) : Option Value → Option α
  | none => some default
  | some value => read value

-- An integer between zero and `max`.
def naturalUpTo (max : Nat) (value : Value) : Option Nat :=
  match value.integer? with
  | some (.ofNat n) => if n ≤ max then some n else none
  | _ => none

def orNull {α : Type} (read : Value → Option α) : Value → Option (Option α)
  | .null => some none
  | value => (read value).map some

end Value

end Rumor.Json
