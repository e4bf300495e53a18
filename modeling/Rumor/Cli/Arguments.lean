import Rumor.Text.Digits

namespace Rumor.Cli

-- What the text of a value has to be. A whole number may have a sign in front.
inductive Form
  | text
  | path
  | whole (max : Nat)
  | natural (max : Nat)
deriving DecidableEq, Repr

def whole? (text : String) : Option Int :=
  match text.toList with
  | '+' :: digits => (Decimal.value? digits).map Int.ofNat
  | '-' :: digits => (Decimal.value? digits).map fun n => -(n : Int)
  | digits => (Decimal.value? digits).map Int.ofNat

def natural? (text : String) : Option Nat :=
  match text.toList with
  | '+' :: digits => Decimal.value? digits
  | digits => Decimal.value? digits

-- The number a text stands for, zero for a text that is none.
def number (text : String) : Nat :=
  ((whole? text).getD 0).toNat

def Form.accepts (form : Form) (text : String) : Bool :=
  match form with
  | .text => true
  | .path => text != ""
  | .whole max =>
      match whole? text with
      | some n => 0 ≤ n && n ≤ max
      | none => false
  | .natural max =>
      match natural? text with
      | some n => n ≤ max
      | none => false

-- An option that takes a value. Where it is not given, the environment variable
-- `fallback` may stand in for it.
structure Setting where
  name : String
  form : Form
  letter : Option Char := none
  fallback : Option String := none
deriving DecidableEq, Repr

-- What a command can be given: its options, and how many plain words.
structure Grammar where
  settings : List Setting
  words : Nat
deriving DecidableEq, Repr

-- Why arguments are not read to their end.
inductive Stop
  | help
  | misuse
deriving DecidableEq, Repr

-- What was read: the options that were given, and the plain words.
structure Arguments where
  given : List (String × String)
  words : List String
deriving DecidableEq, Repr

-- How an argument looks. `waits` is an option whose value is the next argument.
inductive Look
  | word
  | escape
  | help
  | waits (setting : Setting)
  | holds (setting : Setting) (value : String)
  | unknown
deriving DecidableEq, Repr

namespace Grammar

def lookLong (g : Grammar) (text : List Char) : Look :=
  let name := String.ofList (text.takeWhile (· ≠ '='))
  match text.dropWhile (· ≠ '='), g.settings.find? (·.name = name) with
  | [], none => if name = "help" then .help else .unknown
  | [], some setting => .waits setting
  | _ :: value, some setting => .holds setting (String.ofList value)
  | _ :: _, none => .unknown

-- A letter may have its value right behind it, or behind an equals sign.
def lookShort (g : Grammar) (letter : Char) (rest : List Char) : Look :=
  match g.settings.find? (·.letter = some letter), rest with
  | none, _ => if letter = 'h' then .help else .unknown
  | some setting, [] => .waits setting
  | some setting, '=' :: value => .holds setting (String.ofList value)
  | some setting, value => .holds setting (String.ofList value)

def look (g : Grammar) (arg : String) : Look :=
  match arg.toList with
  | ['-', '-'] => .escape
  | '-' :: '-' :: text => g.lookLong text
  | '-' :: letter :: rest => g.lookShort letter rest
  | _ => .word

-- An option is given once at most.
def give (s : Setting) (value : String) (read : Arguments) : Except Stop Arguments :=
  if s.form.accepts value && (read.given.lookup s.name).isNone then
    .ok { read with given := (s.name, value) :: read.given }
  else .error .misuse

def word (g : Grammar) (text : String) (read : Arguments) : Except Stop Arguments :=
  if read.words.length < g.words then .ok { read with words := read.words ++ [text] }
  else .error .misuse

-- Reads left to right; the first thing that is wrong, or asks for help, decides.
-- A value that stands by itself must not look like an option.
def readFrom (g : Grammar) (read : Arguments) : List String → Except Stop Arguments
  | [] => .ok read
  | arg :: rest =>
      match g.look arg with
      | .word => (g.word arg read).bind fun read => g.readFrom read rest
      | .escape => rest.foldlM (fun read arg => g.word arg read) read
      | .help => .error .help
      | .unknown => .error .misuse
      | .holds s value => (give s value read).bind fun read => g.readFrom read rest
      | .waits s =>
          match rest with
          | [] => .error .misuse
          | value :: rest =>
              if g.look value = .word then
                (give s value read).bind fun read => g.readFrom read rest
              else .error .misuse

-- An option that was not given takes the value of its variable, if that is set.
def fill (environment : List (String × String)) (read : Arguments) (s : Setting) :
    Except Stop Arguments :=
  match read.given.lookup s.name, s.fallback.bind (environment.lookup ·) with
  | none, some value => give s value read
  | _, _ => .ok read

def read (g : Grammar) (environment : List (String × String)) (args : List String) :
    Except Stop Arguments :=
  (g.readFrom ⟨[], []⟩ args).bind fun read => g.settings.foldlM (fill environment) read

end Grammar

end Rumor.Cli
