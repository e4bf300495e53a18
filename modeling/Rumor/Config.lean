import Rumor.Engine
import Rumor.Files

namespace Rumor

structure Config where
  peerAddress : String := "127.0.0.1:7001"
  apiAddress : String := "127.0.0.1:7002"
  registryUrl : String := "http://127.0.0.1:8080"
  difficulty : UInt8 := 4
  cacheSize : UInt64 := 1000
  degree : UInt64 := 30
  fanout : UInt64 := 2
  joinTtl : Int32 := 5
  listSeconds : UInt64 := 60
  heartbeatSeconds : UInt64 := 60
  refreshSeconds : Option UInt64 := none
  readSeconds : UInt64 := 5
  announceQueue : UInt64 := 64
  noteQueue : UInt64 := 256
deriving DecidableEq, Repr

namespace Config

def hasScheme (url : String) : Bool :=
  "http://".toList.isPrefixOf url.toList

-- The first thing that is wrong.
def fault? (c : Config) : Option ConfigFault :=
  if c.peerAddress = "" then some .noPeerAddress
  else if c.apiAddress = "" then some .noApiAddress
  else if !hasScheme c.registryUrl then some .registryUrl
  else if Difficulty.max < c.difficulty.toNat then some .difficulty
  else if c.fanout = 0 then some .fanout
  else if c.degree = 0 then some .degree
  else if c.cacheSize = 0 then some .cacheSize
  else if c.joinTtl < 1 then some .joinTtl
  else if c.listSeconds = 0 ∨ c.heartbeatSeconds = 0 then some .tickers
  else if c.refreshSeconds = some 0 then some .refresh
  else if c.readSeconds = 0 then some .readTimeout
  else if c.announceQueue = 0 ∨ c.noteQueue = 0 then some .queues
  else none

def check (c : Config) : Except ConfigFault Config :=
  match c.fault? with
  | some fault => .error fault
  | none => .ok c

def settings (c : Config) : Except PeerError Settings :=
  match Difficulty.ofZeros c.difficulty.toNat with
  | .error error => .error error
  | .ok difficulty =>
      .ok {
        fanout := c.fanout.toNat
        degree := c.degree.toNat
        cacheSize := c.cacheSize.toNat
        difficulty
        joinTtl := c.joinTtl }

end Config

end Rumor
