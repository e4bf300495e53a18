import Rumor.Error
import Rumor.Frame
import Rumor.Text.Line

namespace Rumor.Api.Client

def toNodeError {α : Type} : Except WireError α → Except NodeError α
  | .ok a => .ok a
  | .error error => .error (.wire error)

def announceBytes (ttl : UInt8) (datatype : UInt16) (payload : Bytes) : Except NodeError Bytes :=
  toNodeError (Frame.announce ttl 0 datatype payload).encode

-- The server says nothing when it took the data, and gives a reason when it
-- did not. `none` is a server that did not close in time, which is taken for
-- consent.
def announced : Option Bytes → Except NodeError Unit
  | none => .ok ()
  | some reply =>
      match Utf8.decode reply with
      | .error _ => .error (.io .notText)
      | .ok text => if Text.trim text = "" then .ok () else .error (.rejected (Text.trim text))

-- A notification as a subscriber sees it.
structure Received where
  id : UInt16
  datatype : UInt16
  payload : Bytes
deriving DecidableEq, Repr

def notifyBytes (datatype : UInt16) : Except NodeError Bytes :=
  toNodeError (Frame.notify 0 datatype).encode

def verdictBytes (id : UInt16) (valid : Bool) : Except NodeError Bytes :=
  toNodeError (Frame.validation id (if valid then 1 else 0)).encode

-- Notifications up to the first frame of another kind, which is an error, or
-- to the end.
def notifications (error : Option WireError) : List Frame → List Received × Option NodeError
  | [] => ([], error.map NodeError.wire)
  | .notification id datatype payload :: rest =>
      let (received, stop) := notifications error rest
      (⟨id, datatype, payload⟩ :: received, stop)
  | f :: _ => ([], some (.rejected s!"unexpected frame type {Decimal.ofNat f.code.toNat}"))

-- What a subscriber makes of all that a server sends before it closes.
def readAll (reply : Bytes) : List Received × Option NodeError :=
  let taken := Frame.takeLast reply
  notifications taken.error taken.frames

-- All that a subscriber sends who asks for `datatypes` and then gives the same
-- verdict on everything it receives.
def subscription (datatypes : List UInt16) (valid : Bool) (received : List Received) : Bytes :=
  (datatypes.filterMap fun d => (notifyBytes d).toOption).flatten ++
    (received.filterMap fun n => (verdictBytes n.id valid).toOption).flatten

end Rumor.Api.Client
