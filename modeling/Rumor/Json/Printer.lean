import Rumor.Json.Quoted

namespace Rumor.Json

-- What is written: flat values, and lists of strings.
inductive Item
  | null
  | integer (n : Int)
  | text (s : String)
  | texts (list : List String)

namespace Item

def array (parts : List Bytes) : Bytes :=
  0x5B :: List.intercalate [0x2C] parts ++ [0x5D]

def compact : Item → Bytes
  | .null => Bytes.ascii "null"
  | .integer n => Bytes.ascii (Decimal.ofInt n)
  | .text s => Quoted.encode s
  | .texts list => array (list.map Quoted.encode)

end Item

-- The members of an object, in order.
abbrev Members := List (String × Item)

namespace Members

def compact (members : Members) : Bytes :=
  let member (m : String × Item) : Bytes := Quoted.encode m.1 ++ 0x3A :: m.2.compact
  0x7B :: List.intercalate [0x2C] (members.map member) ++ [0x7D]

-- One member a line, indented by two blanks.
def pretty (members : Members) : Bytes :=
  let member (m : String × Item) : Bytes :=
    Bytes.ascii "\n  " ++ Quoted.encode m.1 ++ Bytes.ascii ": " ++ m.2.compact
  0x7B :: List.intercalate [0x2C] (members.map member) ++ Bytes.ascii "\n\x7d"

end Members

end Rumor.Json
