import Rumor.Error
import Rumor.Json.Printer
import Rumor.Json.Value
import Rumor.Peers
import Rumor.Registry.Url

namespace Rumor.View

open Json

def names : List String :=
  ["partialPeers", "seedNodes"]

def render (view : View) : Bytes :=
  Members.compact (names.zip [.texts view.peers, .texts view.seeds])

-- A list that is not given is empty.
def parse? (bytes : Bytes) : Option View :=
  match (Value.parse? bytes).bind (Value.members? names) with
  | some [peers, seeds] => do
      return ⟨← Value.readOr [] Value.texts? peers, ← Value.readOr [] Value.texts? seeds⟩
  | _ => none

end Rumor.View

namespace Rumor.Registry

-- The address of the service, without slashes at its end.
def baseUrl (url : String) : String :=
  String.ofList (url.toList.reverse.dropWhile (· = '/')).reverse

structure Request where
  method : String
  url : Url
  login : Option Credentials
  contentType : String
  body : String
deriving DecidableEq, Repr

namespace Request

def line (r : Request) : String :=
  r.method ++ " " ++ r.url.target

end Request

-- What a node asks of the service.
inductive Call
  | register (address : String)
  | view
  | heartbeat (address : String)
  | deregister (address : String)
deriving DecidableEq, Repr

-- What became of a request. A connection that is dropped has no answer.
inductive Reply
  | dropped
  | answered (status : Status) (body : Bytes)
deriving DecidableEq, Repr

-- The service knows nodes by number: the name of the local host is sent as its
-- number.
def heartbeatAddress (address : String) : String :=
  let chars := address.toList.reverse
  let port := chars.takeWhile (· ≠ ':')
  let host := chars.dropWhile (· ≠ ':')
  if String.ofList host.reverse = "localhost:" then "127.0.0.1:" ++ String.ofList port.reverse
  else address

namespace Call

def path : Call → String
  | .register _ => "/register"
  | .view => "/peers"
  | .heartbeat _ => "/heartbeat"
  | .deregister _ => "/deregister"

def requestTo (url : Url) (login : Option Credentials) : Call → Request
  | .register address => ⟨"POST", url, login, Form.contentType, Form.pair "peer" address⟩
  | .view => ⟨"GET", url, login, "", ""⟩
  | .heartbeat address =>
      ⟨"GET", url.withPair "peer" (heartbeatAddress address), login, "", ""⟩
  | .deregister address => ⟨"POST", url.withPair "peer" address, login, "", ""⟩

-- The request that a call makes, if the service's address makes sense.
def request (base : String) (call : Call) : Except HttpFault Request :=
  match Url.parse? (base ++ call.path) with
  | none => .error .malformedUrl
  | some url =>
      let request := call.requestTo url.withoutLogin url.login?
      if request.url.isUsable then .ok request else .error (.unusableUrl request.url.text)

inductive Answer
  | done
  | view (view : View)
deriving DecidableEq, Repr

-- Registration is taken as given whatever the service answers; the other calls
-- need the status 200.
def outcome (call : Call) (url : String) : Reply → Except PeerError Answer
  | .dropped => .error (.http (.unsent url))
  | .answered status body =>
      match call with
      | .register _ => .ok .done
      | .view =>
          if status ≠ .ok then .error (.registry (.view status))
          else
            match View.parse? body with
            | some found => .ok (.view found)
            | none => .error (.http .undecodable)
      | .heartbeat address =>
          if status ≠ .ok then .error (.registry (.heartbeat (heartbeatAddress address) status))
          else .ok .done
      | .deregister address =>
          if status ≠ .ok then .error (.registry (.deregister address status)) else .ok .done

end Call

-- The service as one host meets it: the authority under which it is found,
-- whether that can be reached, and what it answers to a request.
structure Service where
  authority : String
  route : Route
  reply : Request → Reply

-- Makes a call. The request counts as made once it reaches the service.
def Service.call (s : Service) (base : String) (call : Call) :
    Except PeerError Call.Answer × Option Request :=
  match call.request base with
  | .error fault => (.error (.http fault), none)
  | .ok request =>
      if s.route = .connected ∧ request.url.authority = s.authority then
        (call.outcome request.url.text (s.reply request), some request)
      else (.error (.http (.unsent request.url.text)), none)

end Rumor.Registry
