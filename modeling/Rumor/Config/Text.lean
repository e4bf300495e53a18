import Rumor.Config
import Rumor.Json.Printer
import Rumor.Json.Value

namespace Rumor.Config

open Json

def names : List String :=
  ["p2p_address", "api_address", "bootstrap_url", "difficulty", "cache_size", "degree", "fanout",
   "join_ttl", "peer_list_interval_secs", "heartbeat_interval_secs",
   "bootstrap_refresh_interval_secs", "read_timeout_secs", "announce_queue_size",
   "notification_queue_size"]

def items (c : Config) : List Item :=
  let word (n : UInt64) : Item := .integer n.toNat
  [.text c.peerAddress, .text c.apiAddress, .text c.registryUrl, .integer c.difficulty.toNat,
   word c.cacheSize, word c.degree, word c.fanout, .integer c.joinTtl.toInt, word c.listSeconds,
   word c.heartbeatSeconds, (c.refreshSeconds.map word).getD .null, word c.readSeconds,
   word c.announceQueue, word c.noteQueue]

def render (c : Config) : Bytes :=
  Members.pretty (names.zip c.items)

def word? (value : Value) : Option UInt64 :=
  (value.naturalUpTo (UInt64.size - 1)).map UInt64.ofNat

def octet? (value : Value) : Option UInt8 :=
  (value.naturalUpTo 255).map UInt8.ofNat

def int32? (value : Value) : Option Int32 :=
  match value.integer? with
  | some n => if Int32.minValue.toInt ≤ n ∧ n ≤ Int32.maxValue.toInt then some (.ofInt n) else none
  | none => none

-- A member that is not given keeps its default.
def ofMembers? : List (Option Value) → Option Config
  | [peer, api, url, difficulty, cache, degree, fanout, ttl, list, heartbeat, refresh, readTimeout,
      announces, notes] => do
      let c : Config := {}
      return {
        peerAddress := ← Value.readOr c.peerAddress Value.text? peer
        apiAddress := ← Value.readOr c.apiAddress Value.text? api
        registryUrl := ← Value.readOr c.registryUrl Value.text? url
        difficulty := ← Value.readOr c.difficulty octet? difficulty
        cacheSize := ← Value.readOr c.cacheSize word? cache
        degree := ← Value.readOr c.degree word? degree
        fanout := ← Value.readOr c.fanout word? fanout
        joinTtl := ← Value.readOr c.joinTtl int32? ttl
        listSeconds := ← Value.readOr c.listSeconds word? list
        heartbeatSeconds := ← Value.readOr c.heartbeatSeconds word? heartbeat
        refreshSeconds := ← Value.readOr c.refreshSeconds (Value.orNull word?) refresh
        readSeconds := ← Value.readOr c.readSeconds word? readTimeout
        announceQueue := ← Value.readOr c.announceQueue word? announces
        noteQueue := ← Value.readOr c.noteQueue word? notes }
  | _ => none

def read? (bytes : Bytes) : Option Config :=
  ((Value.parse? bytes).bind (Value.members? names)).bind ofMembers?

-- Reads and checks a configuration.
def parse (bytes : Bytes) : Except ConfigFault Config :=
  match read? bytes with
  | none => .error .json
  | some c => c.check

-- The configuration in a file, by what came of reading it. `shown` is how the
-- path stands in a message.
def ofFile (shown : String) : Except SystemFault Bytes → Except ConfigFault Config
  | .error fault => .error (.unreadable shown fault)
  | .ok bytes =>
      match Utf8.decode bytes with
      | .error _ => .error (.unreadable shown .notText)
      | .ok _ => parse bytes

def load (fs : Files) (path shown : String) : Except ConfigFault Config :=
  ofFile shown (fs.read path)

def save (fs : Files) (path : String) (c : Config) : Option SystemFault × Files :=
  fs.save path c.render

end Rumor.Config
