import Rumor.Text.Digits

namespace Rumor.Json

-- A string token holds the bytes between its quotes as they stand, a number
-- token all its bytes.
inductive Token
  | openArray
  | closeArray
  | openObject
  | closeObject
  | comma
  | colon
  | null
  | bool (value : Bool)
  | number (text : Bytes)
  | string (raw : Bytes)
deriving DecidableEq, Repr

namespace Token

def quote : UInt8 := 0x22

def backslash : UInt8 := 0x5C

-- How far a number has been read.
inductive Digits
  | minus
  | zero
  | whole
  | point
  | fraction
  | exponent
  | exponentSign
  | power
deriving DecidableEq, Repr

-- Text read so far stands newest byte first.
inductive Mode
  | between
  | string (read : Bytes)
  | escape (read : Bytes)
  | code (left : Nat) (read : Bytes)
  | word (left : Bytes) (token : Token)
  | number (at_ : Digits) (read : Bytes)
deriving DecidableEq, Repr

-- Tokens stand newest first.
structure Lexer where
  mode : Mode
  tokens : List Token

def isBlank (b : UInt8) : Bool :=
  b == 0x20 || b == 0x09 || b == 0x0A || b == 0x0D

def isDigit (b : UInt8) : Bool :=
  0x30 ≤ b && b ≤ 0x39

-- The bytes that may follow a backslash, the four-digit code apart.
def isEscape (b : UInt8) : Bool :=
  [0x22, 0x5C, 0x2F, 0x62, 0x66, 0x6E, 0x72, 0x74].contains b

-- What a number becomes when `b` follows it, if it can go on with `b`.
def Digits.next? (at_ : Digits) (b : UInt8) : Option Digits :=
  let mark : Option Digits :=
    if b = 0x2E then some .point
    else if b = 0x65 ∨ b = 0x45 then some .exponent
    else none
  match at_ with
  | .minus => if b = 0x30 then some .zero else if isDigit b then some .whole else none
  | .zero => mark
  | .whole => if isDigit b then some .whole else mark
  | .point => if isDigit b then some .fraction else none
  | .fraction =>
      if isDigit b then some .fraction
      else if b = 0x65 ∨ b = 0x45 then some .exponent
      else none
  | .exponent =>
      if isDigit b then some .power
      else if b = 0x2B ∨ b = 0x2D then some .exponentSign
      else none
  | .exponentSign => if isDigit b then some .power else none
  | .power => if isDigit b then some .power else none

-- Whether a number may end here.
def Digits.complete : Digits → Bool
  | .zero | .whole | .fraction | .power => true
  | _ => false

def Lexer.emit (tokens : List Token) (token : Token) : Lexer :=
  ⟨.between, token :: tokens⟩

-- The first byte of a token, or a blank.
def Lexer.begin (tokens : List Token) (b : UInt8) : Option Lexer :=
  if isBlank b then some ⟨.between, tokens⟩
  else if b = quote then some ⟨.string [], tokens⟩
  else if b = 0x2D then some ⟨.number .minus [b], tokens⟩
  else if b = 0x30 then some ⟨.number .zero [b], tokens⟩
  else if isDigit b then some ⟨.number .whole [b], tokens⟩
  else if b = 0x5B then some (emit tokens .openArray)
  else if b = 0x5D then some (emit tokens .closeArray)
  else if b = 0x7B then some (emit tokens .openObject)
  else if b = 0x7D then some (emit tokens .closeObject)
  else if b = 0x2C then some (emit tokens .comma)
  else if b = 0x3A then some (emit tokens .colon)
  else if b = 0x6E then some ⟨.word (Bytes.ascii "ull") .null, tokens⟩
  else if b = 0x74 then some ⟨.word (Bytes.ascii "rue") (.bool true), tokens⟩
  else if b = 0x66 then some ⟨.word (Bytes.ascii "alse") (.bool false), tokens⟩
  else none

def Lexer.step (s : Lexer) (b : UInt8) : Option Lexer :=
  match s.mode with
  | .between => begin s.tokens b
  | .string read =>
      if b = quote then some (emit s.tokens (.string read.reverse))
      else if b = backslash then some ⟨.escape (b :: read), s.tokens⟩
      else if b < 0x20 then none
      else some ⟨.string (b :: read), s.tokens⟩
  | .escape read =>
      if b = 0x75 then some ⟨.code 4 (b :: read), s.tokens⟩
      else if isEscape b then some ⟨.string (b :: read), s.tokens⟩
      else none
  | .code left read =>
      if (Hex.digit? b).isNone then none
      else if left ≤ 1 then some ⟨.string (b :: read), s.tokens⟩
      else some ⟨.code (left - 1) (b :: read), s.tokens⟩
  | .word left token =>
      match left with
      | [] => none
      | c :: rest =>
          if b ≠ c then none
          else if rest.isEmpty then some (emit s.tokens token)
          else some ⟨.word rest token, s.tokens⟩
  | .number at_ read =>
      match at_.next? b with
      | some next => some ⟨.number next (b :: read), s.tokens⟩
      | none => if at_.complete then begin (.number read.reverse :: s.tokens) b else none

def Lexer.finish (s : Lexer) : Option (List Token) :=
  match s.mode with
  | .between => some s.tokens.reverse
  | .number at_ read =>
      if at_.complete then some (.number read.reverse :: s.tokens).reverse else none
  | _ => none

def ofBytes? (bytes : Bytes) : Option (List Token) :=
  (bytes.foldlM Lexer.step ⟨.between, []⟩).bind Lexer.finish

end Token

end Rumor.Json
