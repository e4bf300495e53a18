import Rumor.Cli
import Rumor.Live.Node

namespace Rumor.Live

open Cli

def usage : String :=
  "Peer-to-peer gossip node\n\nUsage: gossipd <COMMAND>\n\nCommands:\n" ++
  "  run          Run the node\n" ++
  "  init-config  Generate a sample config file\n" ++
  "  announce     Announce data through a running node\n" ++
  "  notify       Subscribe to a datatype and print notifications\n" ++
  "  help         Print this message or the help of the given subcommand(s)\n\n" ++
  "Options:\n  -h, --help     Print help\n  -V, --version  Print version"

def failed (error : NodeError) : IO UInt32 := do
  IO.eprintln s!"Error: {error.message}"
  return 1

def report (r : Report) : IO UInt32 := do
  IO.print r.output
  IO.eprint r.complaint
  return .ofNat r.ending.code

def readFile (path : String) : IO (Except SystemFault Bytes) := do
  return (← attempt (IO.FS.readBinFile path)).map fun b => b.toList

def run (file : Option String) (changes : Changes) : IO UInt32 := do
  let read ← match file with
    | some path => readFile path
    | none => pure (.error .notFound)
  match configure (fun _ => read) file changes with
  | .error error => failed error
  | .ok c =>
      match ← runNode c with
      | some error => failed error
      | none => return 0

-- The directory that a path is in.
def directoryOf (path : String) : String :=
  String.ofList (path.toList.reverse.dropWhile (· ≠ '/')).reverse

def sample (path : String) : IO UInt32 := do
  let saved ← attempt do
    let directory := directoryOf path
    if directory ≠ "" then IO.FS.createDirAll directory
    IO.FS.writeBinFile path (ByteArray.mk ({} : Config).render.toArray)
  match saved with
  | .ok _ => report ⟨sampleLines path, .done⟩
  | .error fault => failed (.io fault)

def replyWait : Nat := 5000

def announce (api : String) (datatype : UInt16) (ttl : UInt8) (data : String) : IO UInt32 := do
  match ← dial api with
  | .error fault => failed (.io fault)
  | .ok link =>
      match Api.Client.announceBytes ttl datatype (Utf8.encode data) with
      | .error error => failed error
      | .ok bytes =>
          let read ← attempt do
            write link bytes
            readTo link answerLimit (some ((← IO.monoMsNow) + replyWait)) []
          match read with
          | .error fault => failed (.io fault)
          | .ok reply => report (Cli.announced api datatype (Api.Client.announced reply))

-- Shows notifications as they come, and answers each.
partial def follow (link : Link) (buffer : Bytes) : IO (Option NodeError) := do
  let some bytes ← next link none | return none
  let taken := if bytes.isEmpty then Frame.takeLast buffer else Frame.takeAll (buffer ++ bytes) []
  let (received, stop) := Api.Client.notifications taken.error taken.frames
  for n in received do
    IO.println (receivedLine n)
    match Api.Client.verdictBytes n.id true with
    | .ok verdict => write link verdict
    | .error error => return some error
  if stop.isSome || bytes.isEmpty then return stop else follow link taken.rest

def notify (api : String) (datatype : UInt16) : IO UInt32 := do
  match ← dial api with
  | .error fault => failed (.io fault)
  | .ok link =>
      let followed ← attempt do
        match Api.Client.notifyBytes datatype with
        | .error error => return some error
        | .ok bytes =>
            write link bytes
            IO.println (subscribedLine api datatype)
            follow link []
      match followed with
      | .error fault => failed (.io fault)
      | .ok (some error) => failed error
      | .ok none =>
          IO.println closedLine
          return 0

def perform : Command → IO UInt32
  | .run file changes => run file changes
  | .sample path => sample path
  | .announce api datatype ttl data => announce api datatype ttl data
  | .notify api datatype => notify api datatype

-- The variables that may stand in for options, as far as they are set.
def environment : IO (List (String × String)) :=
  (runGrammar.settings.filterMap (·.fallback)).filterMapM fun name => do
    return (← IO.getEnv name).map (name, ·)

end Rumor.Live

open Rumor

def main (args : List String) : IO UInt32 := do
  match Cli.parse (← Live.environment) args with
  | .command c => Live.perform c
  | .version => Live.report ⟨[Cli.versionLine], .done⟩
  | .help =>
      IO.println Live.usage
      return 0
  | .misuse =>
      IO.eprintln Live.usage
      return 2
