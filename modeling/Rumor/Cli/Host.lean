import Rumor.Cli
import Rumor.Node

namespace Rumor.Cli

-- The machine that a command runs on: its files and its network, what a server
-- there answers, the ports that are free, and what a node meets.
structure Host where
  files : Files
  network : Network
  reply : Bytes
  free : Nat × Nat
  world : World

-- What a command leaves behind, and what it sent to the server.
structure Outcome where
  report : Report
  files : Files
  sent : Bytes

namespace Host

def ends (h : Host) (report : Report) (sent : Bytes) : Outcome :=
  ⟨report, h.files, sent⟩

-- A node that starts runs until it is told to stop, and says nothing.
def run (h : Host) (file : Option String) (changes : Changes) : Report :=
  match configure h.files.read file changes with
  | .error error => .failed error
  | .ok c =>
      match (Node.start h.world h.network h.free c).1 with
      | .running _ => ⟨[], .done⟩
      | .failed error => .failed error
      | .crashed => ⟨[], .crashed⟩

def perform (h : Host) : Command → Outcome
  | .run file changes => h.ends (h.run file changes) []
  | .sample path =>
      let (report, files) := Cli.sample h.files path
      ⟨report, files, []⟩
  | .announce api datatype ttl data =>
      match h.network.dial api with
      | .failed fault => h.ends (.failed (.io fault)) []
      | .connected =>
          match Api.Client.announceBytes ttl datatype (Utf8.encode data) with
          | .error error => h.ends (.failed error) []
          | .ok sent => h.ends (announced api datatype (Api.Client.announced (some h.reply))) sent
  | .notify api datatype =>
      match h.network.dial api with
      | .failed fault => h.ends (.failed (.io fault)) []
      | .connected =>
          let received := (Api.Client.readAll h.reply).1
          h.ends (notified api datatype h.reply) (Api.Client.subscription [datatype] true received)

-- The whole program, from its arguments on. Usage texts are not part of the
-- report.
def answer (h : Host) (environment : List (String × String)) (args : List String) : Outcome :=
  match parse environment args with
  | .command c => h.perform c
  | .help => h.ends ⟨[], .done⟩ []
  | .version => h.ends ⟨[versionLine], .done⟩ []
  | .misuse => h.ends ⟨[], .misuse⟩ []

end Host

end Rumor.Cli
