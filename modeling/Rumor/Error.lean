import Rumor.Stamp
import Rumor.SystemFault
import Rumor.WireError

namespace Rumor

namespace Registry

-- The answer code of an HTTP exchange.
structure Status where
  code : Nat
deriving DecidableEq, Repr

namespace Status

def ok : Status :=
  ⟨200⟩

-- The standard phrases.
def phrases : List (Nat × String) :=
  [(100, "Continue"), (101, "Switching Protocols"), (102, "Processing"), (103, "Early Hints"),
   (200, "OK"), (201, "Created"), (202, "Accepted"), (203, "Non Authoritative Information"),
   (204, "No Content"), (205, "Reset Content"), (206, "Partial Content"), (207, "Multi-Status"),
   (208, "Already Reported"), (226, "IM Used"),
   (300, "Multiple Choices"), (301, "Moved Permanently"), (302, "Found"), (303, "See Other"),
   (304, "Not Modified"), (305, "Use Proxy"), (307, "Temporary Redirect"),
   (308, "Permanent Redirect"),
   (400, "Bad Request"), (401, "Unauthorized"), (402, "Payment Required"), (403, "Forbidden"),
   (404, "Not Found"), (405, "Method Not Allowed"), (406, "Not Acceptable"),
   (407, "Proxy Authentication Required"), (408, "Request Timeout"), (409, "Conflict"),
   (410, "Gone"), (411, "Length Required"), (412, "Precondition Failed"),
   (413, "Payload Too Large"), (414, "URI Too Long"), (415, "Unsupported Media Type"),
   (416, "Range Not Satisfiable"), (417, "Expectation Failed"), (418, "I'm a teapot"),
   (421, "Misdirected Request"), (422, "Unprocessable Entity"), (423, "Locked"),
   (424, "Failed Dependency"), (425, "Too Early"), (426, "Upgrade Required"),
   (428, "Precondition Required"), (429, "Too Many Requests"),
   (431, "Request Header Fields Too Large"), (451, "Unavailable For Legal Reasons"),
   (500, "Internal Server Error"), (501, "Not Implemented"), (502, "Bad Gateway"),
   (503, "Service Unavailable"), (504, "Gateway Timeout"), (505, "HTTP Version Not Supported"),
   (506, "Variant Also Negotiates"), (507, "Insufficient Storage"), (508, "Loop Detected"),
   (510, "Not Extended"), (511, "Network Authentication Required")]

def text (s : Status) : String :=
  let phrase := (phrases.lookup s.code).getD "<unknown status code>"
  s!"{Decimal.ofNat s.code} {phrase}"

end Status

end Registry

-- A request to the registry that was answered with another status than 200.
inductive RegistryFault
  | view (status : Registry.Status)
  | heartbeat (address : String) (status : Registry.Status)
  | deregister (address : String) (status : Registry.Status)
deriving DecidableEq, Repr

def RegistryFault.message : RegistryFault → String
  | .view status => s!"GET /peers returned {status.text}"
  | .heartbeat address status => s!"heartbeat for {address} returned {status.text}"
  | .deregister address status => s!"deregister for {address} returned {status.text}"

-- Why a request to the registry has no answer that can be used.
inductive HttpFault
  | malformedUrl
  | unusableUrl (url : String)
  | unsent (url : String)
  | undecodable
deriving DecidableEq, Repr

def HttpFault.message : HttpFault → String
  | .malformedUrl => "builder error"
  | .unusableUrl url => s!"builder error for url ({url})"
  | .unsent url => s!"error sending request for url ({url})"
  | .undecodable => "error decoding response body"

inductive PeerError
  | connection (address : String) (fault : SystemFault)
  | timeout (operation address : String)
  | wire (error : WireError)
  | noNonce (difficulty : Difficulty)
  | registry (fault : RegistryFault)
  | http (fault : HttpFault)
  | difficulty (zeros : Nat)
deriving DecidableEq, Repr

def PeerError.message : PeerError → String
  | .connection address fault => s!"connection to {address} failed: {fault.message}"
  | .timeout operation address => s!"{operation} timed out for {address}"
  | .wire error => s!"protocol error: {error.message}"
  | .noNonce d => s!"proof of work failed: no nonce found at difficulty {Decimal.ofNat d.zeros}"
  | .registry fault => s!"bootstrap error: {fault.message}"
  | .http fault => s!"http error: {fault.message}"
  | .difficulty zeros =>
      s!"invalid configuration: difficulty {Decimal.ofNat zeros} exceeds the maximum of {Decimal.ofNat Difficulty.max}"

def Difficulty.ofZeros (zeros : Nat) : Except PeerError Difficulty :=
  match Difficulty.ofZeros? zeros with
  | some d => .ok d
  | .none => .error (.difficulty zeros)

inductive ConfigFault
  | noPeerAddress
  | noApiAddress
  | registryUrl
  | difficulty
  | fanout
  | degree
  | cacheSize
  | joinTtl
  | tickers
  | refresh
  | readTimeout
  | queues
  | json
  | unreadable (path : String) (fault : SystemFault)
deriving DecidableEq, Repr

def ConfigFault.message : ConfigFault → String
  | .noPeerAddress => "p2p_address cannot be empty"
  | .noApiAddress => "api_address cannot be empty"
  | .registryUrl => "bootstrap_url must start with http://"
  | .difficulty => s!"difficulty cannot exceed {Decimal.ofNat Difficulty.max}"
  | .fanout => "fanout must be greater than zero"
  | .degree => "degree must be greater than zero"
  | .cacheSize => "cache_size must be greater than zero"
  | .joinTtl => "join_ttl must be at least 1"
  | .tickers => "ticker intervals must be greater than zero"
  | .refresh => "bootstrap_refresh_interval_secs must be greater than zero"
  | .readTimeout => "read_timeout_secs must be greater than zero"
  | .queues => "queue sizes must be greater than zero"
  | .json => "invalid JSON"
  | .unreadable path fault => s!"failed to read config file '{path}': {fault.message}"

inductive NodeError
  | config (fault : ConfigFault)
  | bind (address : String) (fault : SystemFault)
  | registry (error : PeerError)
  | peer (error : PeerError)
  | wire (error : WireError)
  | rejected (reason : String)
  | io (fault : SystemFault)
deriving DecidableEq, Repr

def NodeError.message : NodeError → String
  | .config fault => s!"configuration error: {fault.message}"
  | .bind address fault => s!"failed to bind {address}: {fault.message}"
  | .registry error => s!"bootstrap failed: {error.message}"
  | .peer error => s!"gossip error: {error.message}"
  | .wire error => s!"protocol error: {error.message}"
  | .rejected reason => s!"api request rejected: {reason}"
  | .io fault => s!"io error: {fault.message}"

end Rumor
