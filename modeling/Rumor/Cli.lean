import Rumor.Api.Client
import Rumor.Cli.Arguments
import Rumor.Config.Text

namespace Rumor.Cli

-- What a run changes of its configuration.
structure Changes where
  peerAddress : Option String
  apiAddress : Option String
  registryUrl : Option String
  difficulty : Option UInt8
  fanout : Option UInt64
  degree : Option UInt64
deriving DecidableEq, Repr

inductive Command
  | run (file : Option String) (changes : Changes)
  | sample (output : String)
  | announce (api : String) (datatype : UInt16) (ttl : UInt8) (data : String)
  | notify (api : String) (datatype : UInt16)
deriving DecidableEq, Repr

inductive Request
  | command (c : Command)
  | help
  | version
  | misuse
deriving DecidableEq, Repr

def Request.ofStop : Stop → Request
  | .help => .help
  | .misuse => .misuse

def apiSetting : Setting :=
  { name := "api", form := .text }

def datatypeSetting : Setting :=
  { name := "datatype", form := .whole 65535 }

def size : Form :=
  .natural (UInt64.size - 1)

def runGrammar : Grammar :=
  ⟨[{ name := "config", form := .path, letter := some 'c', fallback := some "GOSSIPD_CONFIG" },
    { name := "p2p-address", form := .text, fallback := some "GOSSIPD_P2P_ADDRESS" },
    { name := "api-address", form := .text, fallback := some "GOSSIPD_API_ADDRESS" },
    { name := "bootstrap-url", form := .text, fallback := some "GOSSIPD_BOOTSTRAP_URL" },
    { name := "difficulty", form := .whole 255, fallback := some "GOSSIPD_DIFFICULTY" },
    { name := "fanout", form := size },
    { name := "degree", form := size }], 0⟩

def sampleGrammar : Grammar :=
  ⟨[{ name := "output", form := .path, letter := some 'o' }], 0⟩

def announceGrammar : Grammar :=
  ⟨[apiSetting, datatypeSetting, { name := "ttl", form := .whole 255 }], 1⟩

def notifyGrammar : Grammar :=
  ⟨[apiSetting, datatypeSetting], 0⟩

def Arguments.text? (a : Arguments) (name : String) : Option String :=
  a.given.lookup name

def Arguments.api (a : Arguments) : String :=
  (a.text? "api").getD ({} : Config).apiAddress

def Arguments.datatype? (a : Arguments) : Option UInt16 :=
  (a.text? "datatype").map fun text => .ofNat (number text)

def runOf (a : Arguments) : Request :=
  .command (.run (a.text? "config") {
    peerAddress := a.text? "p2p-address"
    apiAddress := a.text? "api-address"
    registryUrl := a.text? "bootstrap-url"
    difficulty := (a.text? "difficulty").map fun text => .ofNat (number text)
    fanout := (a.text? "fanout").map fun text => .ofNat (number text)
    degree := (a.text? "degree").map fun text => .ofNat (number text) })

def sampleOf (a : Arguments) : Request :=
  .command (.sample ((a.text? "output").getD "gossipd.json"))

def announceOf (a : Arguments) : Request :=
  match a.datatype?, a.words with
  | some datatype, [data] =>
      let ttl := ((a.text? "ttl").map fun text => UInt8.ofNat (number text)).getD 5
      .command (.announce a.api datatype ttl data)
  | _, _ => .misuse

def notifyOf (a : Arguments) : Request :=
  match a.datatype? with
  | some datatype => .command (.notify a.api datatype)
  | none => .misuse

-- The commands, and what they make of their arguments.
def commands : List (String × Grammar × (Arguments → Request)) :=
  [("run", runGrammar, runOf), ("init-config", sampleGrammar, sampleOf),
   ("announce", announceGrammar, announceOf), ("notify", notifyGrammar, notifyOf)]

-- Help is there for each command and for `help`.
def helpOn : List String → Request
  | [] => .help
  | [name] => if name = "help" || (commands.lookup name).isSome then .help else .misuse
  | _ => .misuse

def flags (arg : String) : Request :=
  match arg.toList with
  | '-' :: 'h' :: _ => .help
  | '-' :: 'V' :: _ => .version
  | _ => if arg = "--help" then .help else if arg = "--version" then .version else .misuse

def parse (environment : List (String × String)) : List String → Request
  | [] => .misuse
  | name :: args =>
      match commands.lookup name with
      | none => if name = "help" then helpOn args else flags name
      | some (grammar, make) =>
          match grammar.read environment args with
          | .ok a => make a
          | .error stop => .ofStop stop

def Changes.apply (changes : Changes) (c : Config) : Config :=
  { c with
    peerAddress := changes.peerAddress.getD c.peerAddress
    apiAddress := changes.apiAddress.getD c.apiAddress
    registryUrl := changes.registryUrl.getD c.registryUrl
    difficulty := changes.difficulty.getD c.difficulty
    fanout := changes.fanout.getD c.fanout
    degree := changes.degree.getD c.degree }

inductive Ending
  | done
  | failed (error : NodeError)
  | crashed
  | misuse
deriving DecidableEq, Repr

namespace Ending

def code : Ending → Nat
  | .done => 0
  | .failed _ => 1
  | .crashed => 101
  | .misuse => 2

def ofFault? : Option NodeError → Ending
  | none => .done
  | some error => .failed error

end Ending

-- The lines that a command printed, and how it ended.
structure Report where
  lines : List String
  ending : Ending
deriving DecidableEq, Repr

namespace Report

def failed (error : NodeError) : Report :=
  ⟨[], .failed error⟩

def output (r : Report) : String :=
  String.join (r.lines.map (· ++ "\n"))

-- What a failure has to say.
def complaint (r : Report) : String :=
  match r.ending with
  | .failed error => s!"Error: {error.message}\n"
  | _ => ""

end Report

def versionLine : String :=
  "gossipd 0.1.0"

-- The configuration that a run begins with, where `read` is what came of
-- reading a file.
def configure (read : String → Except SystemFault Bytes) (file : Option String)
    (changes : Changes) : Except NodeError Config :=
  match file with
  | none => .ok (changes.apply {})
  | some path =>
      match Config.ofFile path (read path) with
      | .ok c => .ok (changes.apply c)
      | .error fault => .error (.config fault)

def sampleLines (path : String) : List String :=
  [s!"Config written to {path}", "", "Point bootstrap_url at your bootstrap service, then run:",
   s!"  gossipd run --config {path}"]

def sample (fs : Files) (path : String) : Report × Files :=
  match Config.save fs path {} with
  | (none, fs) => (⟨sampleLines path, .done⟩, fs)
  | (some fault, fs) => (.failed (.io fault), fs)

def announcedLine (api : String) (datatype : UInt16) : String :=
  s!"Announced {Decimal.ofNat datatype.toNat} via {api}"

def announced (api : String) (datatype : UInt16) : Except NodeError Unit → Report
  | .ok _ => ⟨[announcedLine api datatype], .done⟩
  | .error error => .failed error

def subscribedLine (api : String) (datatype : UInt16) : String :=
  s!"Subscribed to datatype {Decimal.ofNat datatype.toNat} via {api}"

def receivedLine (n : Api.Client.Received) : String :=
  s!"[{Decimal.ofNat n.id.toNat}] datatype {Decimal.ofNat n.datatype.toNat}: {Utf8.lossy n.payload}"

def closedLine : String :=
  "Connection closed by node"

-- A subscription to the end of what the server sent.
def notified (api : String) (datatype : UInt16) (reply : Bytes) : Report :=
  let (received, error) := Api.Client.readAll reply
  let last := if error.isSome then [] else [closedLine]
  ⟨subscribedLine api datatype :: received.map receivedLine ++ last, .ofFault? error⟩

end Rumor.Cli
