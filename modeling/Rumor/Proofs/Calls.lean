import Rumor.Proofs.Engine
import Rumor.Proofs.Run

-- Calls to an engine that run side by side. What they share lies behind locks,
-- so a call goes forward in turns: in each turn it holds one lock once, and
-- other calls may come in before its next.
namespace Rumor.Calls

-- Whose message an id belongs to.
inductive Source
  | peer
  | own
deriving DecidableEq, Repr

-- `remember` tells whether the id was new.
inductive Act
  | remember (source : Source) (id : MessageId) (new : Bool)
  | dispatch (id : MessageId)
  | relay (id : MessageId)
  | send (sends : List Send)
  | handled (m : Message) (outcome : Outcome)
  | originated (result : Except PeerError (List Send))
  | asked (result : Except PeerError Unit)

-- What a call does next.
inductive Stage
  | arrived (m : Message)
  | taken (kind : Kind) (m : Message)
  | noting (note : Note) (kind : Kind) (m : Message)
  | bounding (kind : Kind) (m : Message)
  | replying (reply : Message) (kind : Kind) (m : Message)
  | closing (kind : Kind) (m : Message)
  | made (m : Message)
  | spreading (m : Message)
  | refreshing (routes : String → Route)
  | asking (seed : String) (route : Route)
  | ended

structure Turn where
  acts : List Act
  stage : Stage
  engine : Engine

namespace Act

def sends : Act → List Send
  | .send sends => sends
  | .originated (.ok sends) => sends
  | _ => []

def outcome? : Act → Option Outcome
  | .handled _ outcome => some outcome
  | _ => none

end Act

namespace Stage

-- The dispatch of a new message up to its first lock.
def dispatch (draw : Draw) (kind : Kind) (m : Message) (e : Engine) : Stage × Engine :=
  match kind with
  | .data datatype =>
      if e.interest.has datatype then (.noting ⟨m.id, datatype, m.payload⟩ kind m, e)
      else (.closing kind m, e)
  | .join =>
      match m.address with
      | .error _ => (.closing kind m, e)
      | .ok address =>
          if address = e.self then (.closing kind m, e)
          else (.bounding kind m, { e with peers := (e.peers.add address).2 })
  | .leave =>
      match m.address with
      | .error _ => (.closing kind m, e)
      | .ok address => (.closing kind m, { e with peers := (e.peers.remove address).2 })
  | .listRequest =>
      if m.sender = "" ∨ m.sender = e.self then (.closing kind m, e)
      else (.replying (.listResponse draw.fresh e.self e.peers.members) kind m, e)
  | .listResponse =>
      match m.addresses with
      | .error _ => (.closing kind m, e)
      | .ok list => (.bounding kind m, { e with peers := (e.peers.merge list).2 })

def turn (H : Digest) (draw : Draw) (e : Engine) : Stage → Turn
  | .arrived m =>
      if !Stamp.isValid H e.settings.difficulty m then ⟨[.handled m .invalidStamp], .ended, e⟩
      else
        match m.kind? with
        | none => ⟨[.handled m .malformed], .ended, e⟩
        | some kind =>
            match e.remember m.id with
            | (false, e) => ⟨[.remember .peer m.id false, .handled m .duplicate], .ended, e⟩
            | (true, e) => ⟨[.remember .peer m.id true], .taken kind m, e⟩
  | .taken kind m =>
      let (stage, e) := dispatch draw kind m e
      ⟨[.dispatch m.id], stage, e⟩
  | .noting note kind m => ⟨[], .closing kind m, { e with notes := (e.notes.offer note).2 }⟩
  | .bounding kind m => ⟨[], .closing kind m, { e with peers := e.peers.bound.2 }⟩
  | .replying reply kind m =>
      let (new, e) := e.remember reply.id
      match e.stamp H reply with
      | .error _ => ⟨[.remember .own reply.id new], .closing kind m, e⟩
      | .ok stamped =>
          ⟨[.remember .own reply.id new, .send [⟨m.sender, stamped⟩]], .closing kind m, e⟩
  | .closing kind m =>
      if Engine.isFlooded kind then
        match e.gossip H draw (Engine.spend m) with
        | .error _ => ⟨[.relay m.id, .handled m (.processed [])], .ended, e⟩
        | .ok relays =>
            ⟨[.relay m.id, .send relays, .handled m (.processed (relays.map (·.target)))], .ended,
              e⟩
      else ⟨[.handled m (.processed [])], .ended, e⟩
  | .made m =>
      let (new, e) := e.remember m.id
      ⟨[.remember .own m.id new], .spreading m, e⟩
  | .spreading m => ⟨[.originated (e.gossip H draw m)], .ended, e⟩
  | .refreshing routes =>
      match e.peers.seed? draw.pick with
      | none => ⟨[], .ended, e⟩
      | some seed => ⟨[], .asking seed (routes seed), e⟩
  | .asking seed route =>
      let m := Message.listRequest draw.fresh e.self
      let (new, e) := e.remember m.id
      match e.stamp H m with
      | .error error => ⟨[.remember .own m.id new, .asked (.error error)], .ended, e⟩
      | .ok stamped =>
          ⟨[.remember .own m.id new, .send [⟨seed, stamped⟩],
            .asked ((route.send seed stamped).map fun _ => ())], .ended, e⟩
  | .ended => ⟨[], .ended, e⟩

theorem turn_arrived {H : Digest} {draw : Draw} {e : Engine} {kind : Kind} {m : Message}
    (hvalid : Stamp.isValid H e.settings.difficulty m = true) (hkind : m.kind? = some kind)
    (hnew : (e.remember m.id).1 = true) : turn H draw e (.arrived m) =
      ⟨[.remember .peer m.id true], .taken kind m, (e.remember m.id).2⟩ := by
  have hr : e.remember m.id = (true, (e.remember m.id).2) := Prod.ext hnew rfl
  simp only [turn, hvalid, hkind]
  rw [hr]
  rfl

theorem turn_taken_data {H : Digest} {draw : Draw} {e : Engine} {datatype : UInt16} {m : Message}
    (hasked : e.interest.has datatype = true) : turn H draw e (.taken (.data datatype) m) =
      ⟨[.dispatch m.id], .noting ⟨m.id, datatype, m.payload⟩ (.data datatype) m, e⟩ := by
  simp [turn, dispatch, hasked]

-- What a dispatch can do up to its first lock. Which of it is done depends on what the message
-- says and on whom it names.
inductive Dispatches (draw : Draw) (m : Message) (e : Engine) : Kind → Stage → Engine → Prop
  | notes {datatype : UInt16} (h : e.interest.has datatype = true) :
      Dispatches draw m e (.data datatype)
        (.noting ⟨m.id, datatype, m.payload⟩ (.data datatype) m) e
  | nothing (kind : Kind) : Dispatches draw m e kind (.closing kind m) e
  | adds {address : String} (h : m.address = .ok address) (hother : address ≠ e.self) :
      Dispatches draw m e .join (.bounding .join m) { e with peers := (e.peers.add address).2 }
  | removes {address : String} (h : m.address = .ok address) :
      Dispatches draw m e .leave (.closing .leave m)
        { e with peers := (e.peers.remove address).2 }
  | replies (hsome : m.sender ≠ "") (hother : m.sender ≠ e.self) :
      Dispatches draw m e .listRequest
        (.replying (.listResponse draw.fresh e.self e.peers.members) .listRequest m) e
  | merges {list : List String} (h : m.addresses = .ok list) :
      Dispatches draw m e .listResponse (.bounding .listResponse m)
        { e with peers := (e.peers.merge list).2 }

theorem dispatches (draw : Draw) (kind : Kind) (m : Message) (e : Engine) :
    Dispatches draw m e kind (dispatch draw kind m e).1 (dispatch draw kind m e).2 := by
  cases kind with
  | data datatype =>
      simp only [dispatch]
      split
      · rename_i hasked
        exact .notes hasked
      · exact .nothing _
  | join =>
      simp only [dispatch]
      split
      · exact .nothing _
      · rename_i address haddress
        split
        · exact .nothing _
        · rename_i hother
          exact .adds haddress hother
  | leave =>
      simp only [dispatch]
      split
      · exact .nothing _
      · rename_i address haddress
        exact .removes haddress
  | listRequest =>
      simp only [dispatch]
      split
      · exact .nothing _
      · rename_i hsender
        obtain ⟨hsome, hother⟩ := not_or.mp hsender
        exact .replies hsome hother
  | listResponse =>
      simp only [dispatch]
      split
      · exact .nothing _
      · rename_i list hlist
        exact .merges hlist

-- What a turn can do, and when it does it.
inductive Turns (H : Digest) (draw : Draw) (e : Engine) : Stage → Turn → Prop
  | unstamped (m : Message) (h : Stamp.isValid H e.settings.difficulty m = false) :
      Turns H draw e (.arrived m) ⟨[.handled m .invalidStamp], .ended, e⟩
  | malformed (m : Message) (h : m.kind? = none) :
      Turns H draw e (.arrived m) ⟨[.handled m .malformed], .ended, e⟩
  | knows (m : Message) (h : (e.remember m.id).1 = false) :
      Turns H draw e (.arrived m)
        ⟨[.remember .peer m.id false, .handled m .duplicate], .ended, (e.remember m.id).2⟩
  | takes {kind : Kind} {m : Message} (hvalid : Stamp.isValid H e.settings.difficulty m = true)
      (hkind : m.kind? = some kind) (h : (e.remember m.id).1 = true) :
      Turns H draw e (.arrived m)
        ⟨[.remember .peer m.id true], .taken kind m, (e.remember m.id).2⟩
  | dispatches {kind : Kind} {m : Message} {stage : Stage} {e' : Engine}
      (h : Dispatches draw m e kind stage e') :
      Turns H draw e (.taken kind m) ⟨[.dispatch m.id], stage, e'⟩
  | notes (note : Note) (kind : Kind) (m : Message) :
      Turns H draw e (.noting note kind m)
        ⟨[], .closing kind m, { e with notes := (e.notes.offer note).2 }⟩
  | bounds (kind : Kind) (m : Message) :
      Turns H draw e (.bounding kind m) ⟨[], .closing kind m, { e with peers := e.peers.bound.2 }⟩
  | repliesNone {reply : Message} (kind : Kind) (m : Message) {error : PeerError}
      (h : (e.remember reply.id).2.stamp H reply = .error error) :
      Turns H draw e (.replying reply kind m)
        ⟨[.remember .own reply.id (e.remember reply.id).1], .closing kind m,
          (e.remember reply.id).2⟩
  | replies {reply stamped : Message} (kind : Kind) (m : Message)
      (h : (e.remember reply.id).2.stamp H reply = .ok stamped) :
      Turns H draw e (.replying reply kind m)
        ⟨[.remember .own reply.id (e.remember reply.id).1, .send [⟨m.sender, stamped⟩]],
          .closing kind m, (e.remember reply.id).2⟩
  | closes {kind : Kind} (m : Message) (h : Engine.isFlooded kind = false) :
      Turns H draw e (.closing kind m) ⟨[.handled m (.processed [])], .ended, e⟩
  | relaysNone {kind : Kind} {m : Message} {error : PeerError}
      (h : Engine.isFlooded kind = true)
      (hgossip : e.gossip H draw (Engine.spend m) = .error error) :
      Turns H draw e (.closing kind m) ⟨[.relay m.id, .handled m (.processed [])], .ended, e⟩
  | relays {kind : Kind} {m : Message} {relays : List Send} (h : Engine.isFlooded kind = true)
      (hgossip : e.gossip H draw (Engine.spend m) = .ok relays) :
      Turns H draw e (.closing kind m)
        ⟨[.relay m.id, .send relays, .handled m (.processed (relays.map (·.target)))], .ended, e⟩
  | makes (m : Message) :
      Turns H draw e (.made m)
        ⟨[.remember .own m.id (e.remember m.id).1], .spreading m, (e.remember m.id).2⟩
  | spreads (m : Message) :
      Turns H draw e (.spreading m) ⟨[.originated (e.gossip H draw m)], .ended, e⟩
  | rests (routes : String → Route) (h : e.peers.seed? draw.pick = none) :
      Turns H draw e (.refreshing routes) ⟨[], .ended, e⟩
  | picks {seed : String} (routes : String → Route) (h : e.peers.seed? draw.pick = some seed) :
      Turns H draw e (.refreshing routes) ⟨[], .asking seed (routes seed), e⟩
  | asksNone (seed : String) (route : Route) {error : PeerError}
      (h : (e.remember draw.fresh).2.stamp H (.listRequest draw.fresh e.self) = .error error) :
      Turns H draw e (.asking seed route)
        ⟨[.remember .own draw.fresh (e.remember draw.fresh).1, .asked (.error error)], .ended,
          (e.remember draw.fresh).2⟩
  | asks (seed : String) (route : Route) {stamped : Message}
      (h : (e.remember draw.fresh).2.stamp H (.listRequest draw.fresh e.self) = .ok stamped) :
      Turns H draw e (.asking seed route)
        ⟨[.remember .own draw.fresh (e.remember draw.fresh).1, .send [⟨seed, stamped⟩],
          .asked ((route.send seed stamped).map fun _ => ())], .ended, (e.remember draw.fresh).2⟩
  | ends : Turns H draw e .ended ⟨[], .ended, e⟩

theorem turns (H : Digest) (draw : Draw) (e : Engine) (stage : Stage) :
    Turns H draw e stage (stage.turn H draw e) := by
  cases stage with
  | arrived m =>
      cases hvalid : Stamp.isValid H e.settings.difficulty m with
      | false =>
          simp only [turn, hvalid]
          exact .unstamped m hvalid
      | true =>
          cases hkind : m.kind? with
          | none =>
              simp only [turn, hvalid, hkind]
              exact .malformed m hkind
          | some kind =>
              cases hnew : (e.remember m.id).1 with
              | false =>
                  have hr : e.remember m.id = (false, (e.remember m.id).2) := Prod.ext hnew rfl
                  simp only [turn, hvalid, hkind]
                  rw [hr]
                  exact .knows m hnew
              | true =>
                  rw [turn_arrived hvalid hkind hnew]
                  exact .takes hvalid hkind hnew
  | taken kind m => exact .dispatches (dispatches draw kind m e)
  | noting note kind m => exact .notes note kind m
  | bounding kind m => exact .bounds kind m
  | replying reply kind m =>
      simp only [turn]
      split
      · rename_i hstamp
        exact .repliesNone kind m hstamp
      · rename_i stamped hstamp
        exact .replies kind m hstamp
  | closing kind m =>
      simp only [turn]
      split
      · rename_i hflood
        split
        · rename_i hgossip
          exact .relaysNone hflood hgossip
        · rename_i relays hgossip
          exact .relays hflood hgossip
      · rename_i hflood
        exact .closes m (Bool.eq_false_iff.mpr hflood)
  | made m => exact .makes m
  | spreading m => exact .spreads m
  | refreshing routes =>
      simp only [turn]
      split
      · rename_i hseed
        exact .rests routes hseed
      · rename_i seed hseed
        exact .picks routes hseed
  | asking seed route =>
      simp only [turn]
      split
      · rename_i hstamp
        exact .asksNone seed route hstamp
      · rename_i stamped hstamp
        exact .asks seed route hstamp
  | ended => exact .ends

theorem Turns.of_closing {H : Digest} {draw : Draw} {e : Engine} {kind : Kind} {m : Message}
    {last : Turn} (h : Turns H draw e (.closing kind m) last) :
    last.stage = .ended ∧ ∃ targets, .handled m (.processed targets) ∈ last.acts := by
  cases h with
  | closes => exact ⟨rfl, [], by simp⟩
  | relaysNone => exact ⟨rfl, [], by simp⟩
  | relays => exact ⟨rfl, _, List.mem_cons_of_mem _ (List.mem_cons_of_mem _ List.mem_cons_self)⟩

-- Where a call begins.
inductive Begins : Stage → Prop
  | arrived (m : Message) : Begins (.arrived m)
  | made (m : Message) : Begins (.made m)
  | refreshing (routes : String → Route) : Begins (.refreshing routes)
  | asking (seed : String) (route : Route) : Begins (.asking seed route)

-- So many turns in a row, with no other call in between.
def alone (H : Digest) (draw : Draw) : Nat → Stage → Engine → Turn
  | 0, stage, e => ⟨[], stage, e⟩
  | turns + 1, stage, e =>
      let first := stage.turn H draw e
      let rest := alone H draw turns first.stage first.engine
      ⟨first.acts ++ rest.acts, rest.stage, rest.engine⟩

@[simp] theorem alone_ended (H : Digest) (draw : Draw) (turns : Nat) (e : Engine) :
    alone H draw turns .ended e = ⟨[], .ended, e⟩ := by
  induction turns with
  | zero => rfl
  | succ turns ih => simp [alone, turn, ih]

structure Ends (last : Turn) (outcome : Outcome) (sends : List Send) (e : Engine) : Prop where
  stage : last.stage = .ended
  outcome : last.acts.filterMap Act.outcome? = [outcome]
  sends : last.acts.flatMap Act.sends = sends
  engine : last.engine = e

theorem alone_closing (H : Digest) (draw : Draw) (turns : Nat) (kind : Kind) (m : Message)
    (e : Engine) :
    Ends (alone H draw (turns + 1) (.closing kind m) e)
      (.processed ((Engine.relays H draw kind m e).map (·.target)))
      (Engine.relays H draw kind m e) e := by
  by_cases hflood : Engine.isFlooded kind = true
  · cases hgossip : e.gossip H draw (Engine.spend m) <;>
      constructor <;>
      simp [alone, turn, Engine.relays, hflood, hgossip, Act.sends, Act.outcome?,
        List.filterMap_cons, Except.toOption]
  · constructor <;> simp [alone, turn, Engine.relays, hflood, Act.sends, Act.outcome?]

-- A turn before the end adds what it sends.
theorem Ends.before {H : Digest} {draw : Draw} {turns : Nat} {stage : Stage} {e last : Engine}
    {outcome : Outcome} {sends : List Send} {first : Turn} (hfirst : stage.turn H draw e = first)
    (hquiet : first.acts.filterMap Act.outcome? = [])
    (h : Ends (alone H draw turns first.stage first.engine) outcome sends last) :
    Ends (alone H draw (turns + 1) stage e) outcome
      (first.acts.flatMap Act.sends ++ sends) last := by
  subst hfirst
  constructor <;> simp [alone, hquiet, h.stage, h.outcome, h.sends, h.engine]

theorem alone_taken (H : Digest) (draw : Draw) (kind : Kind) (m : Message) (e : Engine) :
    let after := e.dispatch H draw kind m
    Ends (alone H draw 3 (.taken kind m) e)
      (.processed ((Engine.relays H draw kind m after.2).map (·.target)))
      (after.1 ++ Engine.relays H draw kind m after.2) after.2 := by
  refine Ends.before rfl rfl ?_
  cases kind with
  | data datatype =>
      by_cases hi : e.interest.has datatype = true
      · simp only [turn, dispatch, hi, ite_true, Engine.dispatch, Engine.deliver]
        exact Ends.before rfl rfl (alone_closing H draw 0 _ m _)
      · simp only [turn, dispatch, hi, Engine.dispatch, Engine.deliver]
        exact alone_closing H draw 1 _ m _
  | join =>
      cases ha : m.address with
      | error _ =>
          simp only [turn, dispatch, ha, Engine.dispatch, Engine.onJoin]
          exact alone_closing H draw 1 _ m _
      | ok address =>
          by_cases hs : address = e.self
          · simp only [turn, dispatch, ha, hs, ite_true, Engine.dispatch, Engine.onJoin]
            exact alone_closing H draw 1 _ m _
          · simp only [turn, dispatch, ha, hs, ite_false, Engine.dispatch, Engine.onJoin]
            exact Ends.before rfl rfl (alone_closing H draw 0 _ m _)
  | leave =>
      cases ha : m.address <;>
        simp only [turn, dispatch, ha, Engine.dispatch, Engine.onLeave] <;>
        exact alone_closing H draw 1 _ m _
  | listRequest =>
      by_cases hs : m.sender = "" ∨ m.sender = e.self
      · simp only [turn, dispatch, hs, ite_true, Engine.dispatch, Engine.onListRequest]
        exact alone_closing H draw 1 _ m _
      · let reply := Message.listResponse draw.fresh e.self e.peers.members
        cases hr : (e.remember reply.id).2.stamp H reply with
        | error _ =>
            have ht : turn H draw e (.replying reply .listRequest m) =
                ⟨[.remember .own reply.id (e.remember reply.id).1], .closing .listRequest m,
                  (e.remember reply.id).2⟩ := by
              simp only [turn, hr]
            simp only [turn, dispatch, hs, ite_false, Engine.dispatch, Engine.onListRequest, reply,
              hr]
            exact Ends.before ht rfl (alone_closing H draw 0 _ m _)
        | ok stamped =>
            have ht : turn H draw e (.replying reply .listRequest m) =
                ⟨[.remember .own reply.id (e.remember reply.id).1, .send [⟨m.sender, stamped⟩]],
                  .closing .listRequest m, (e.remember reply.id).2⟩ := by
              simp only [turn, hr]
            simp only [turn, dispatch, hs, ite_false, Engine.dispatch, Engine.onListRequest, reply,
              hr]
            exact Ends.before ht rfl (alone_closing H draw 0 _ m _)
  | listResponse =>
      cases ha : m.addresses with
      | error _ =>
          simp only [turn, dispatch, ha, Engine.dispatch, Engine.onListResponse]
          exact alone_closing H draw 1 _ m _
      | ok list =>
          simp only [turn, dispatch, ha, Engine.dispatch, Engine.onListResponse]
          exact Ends.before rfl rfl (alone_closing H draw 0 _ m _)

-- Alone, a message from a peer is handled as a whole.
theorem alone_arrived (H : Digest) (draw : Draw) (m : Message) (e : Engine) :
    let h := e.handle H draw m
    Ends (alone H draw 4 (.arrived m) e) h.outcome h.sends h.engine := by
  simp only [Engine.handle]
  split
  · rename_i hv
    constructor <;> simp [alone, turn, hv, Act.outcome?, Act.sends]
  · rename_i hv
    split
    · rename_i hk
      constructor <;> simp [alone, turn, hv, hk, Act.outcome?, Act.sends]
    · rename_i kind hk
      split
      · rename_i known hr
        constructor <;> simp [alone, turn, hv, hk, hr, Act.outcome?, Act.sends, List.filterMap_cons]
      · rename_i e' hr
        have ht : turn H draw e (.arrived m) =
            ⟨[.remember .peer m.id true], .taken kind m, e'⟩ := by
          simp [turn, hv, hk, hr]
        have h := Ends.before ht rfl (alone_taken H draw kind m e')
        unfold Engine.relays at h
        cases hf : Engine.isFlooded kind with
        | false => simpa [hf, Act.sends] using h
        | true =>
            cases hspread : (e'.dispatch H draw kind m).2.flood H draw (Engine.spend m) with
            | error error =>
                simpa [hf, hspread, Engine.gossip_of_flood_error hspread, Except.toOption,
                  Act.sends] using h
            | ok relays =>
                simpa [hf, hspread, Engine.gossip_of_flood hspread, Engine.targets_of_flood hspread,
                  Except.toOption, Act.sends] using h

theorem alone_made (H : Digest) (draw : Draw) (m : Message) (e : Engine) :
    let last := alone H draw 2 (.made m) e
    last.stage = .ended ∧ last.engine = (e.originate H draw m).2 ∧
      last.acts.getLast? = some (.originated (e.originate H draw m).1) := by
  simp [alone, turn, Engine.originate]

theorem alone_asking (H : Digest) (draw : Draw) (routes : String → Route) (seed : String)
    (e : Engine) :
    let last := alone H draw 1 (.asking seed (routes seed)) e
    let asked := e.requestList H draw routes seed
    last.stage = .ended ∧ last.engine = asked.engine ∧ last.acts.flatMap Act.sends = asked.sends ∧
      last.acts.getLast? = some (.asked asked.result) := by
  simp only [alone, turn, Engine.requestList]
  split <;> simp_all [Act.sends]

theorem alone_refreshing (H : Digest) (draw : Draw) (routes : String → Route) (e : Engine) :
    let last := alone H draw 2 (.refreshing routes) e
    let asked := e.refresh H draw routes
    last.stage = .ended ∧ last.engine = asked.engine ∧
    last.acts.flatMap Act.sends = asked.sends := by
  cases hseed : e.peers.seed? draw.pick with
  | none => simp [alone, turn, Engine.refresh, hseed]
  | some seed =>
      have ht : turn H draw e (.refreshing routes) = ⟨[], .asking seed (routes seed), e⟩ := by
        simp [turn, hseed]
      obtain ⟨hstage, hengine, hsends, _⟩ := alone_asking H draw routes seed e
      rw [alone, ht]
      simp only [Engine.refresh, hseed]
      exact ⟨hstage, hengine, hsends⟩

end Stage

structure Call where
  draw : Draw
  stage : Stage

structure Pool where
  engine : Engine
  calls : List Call

namespace Pool

def start (self : String) (settings : Settings) (notes : Queue Note) : Pool :=
  ⟨.start self settings notes, []⟩

-- Calls are told apart by their place.
inductive Step (H : Digest) : Pool → List (Nat × Act) → Pool → Prop
  | call {p : Pool} (draw : Draw) (stage : Stage) (h : stage.Begins) :
      Step H p [] { p with calls := p.calls ++ [⟨draw, stage⟩] }
  | turn {p : Pool} {call : Call} {turn : Turn} (k : Nat) (h : p.calls[k]? = some call)
      (hturn : call.stage.turn H call.draw p.engine = turn) :
      Step H p (turn.acts.map (k, ·)) ⟨turn.engine, p.calls.set k ⟨call.draw, turn.stage⟩⟩
  -- Subscribers come and go, notes are read, and a registry tells of peers.
  | meanwhile {p : Pool} (e : Engine) (hself : e.self = p.engine.self)
      (hsettings : e.settings = p.engine.settings) (hcache : e.cache = p.engine.cache) :
      Step H p [] { p with engine := e }

theorem run_turns {H : Digest} {start p : Pool} {labels : List (List (Nat × Act))}
    (run : Run (Step H) start labels p) {k : Nat} {draw : Draw} {stage : Stage}
    (hk : p.calls[k]? = some ⟨draw, stage⟩) (turns : Nat) :
    let last := stage.alone H draw turns p.engine
    ∃ labels', Run (Step H) start labels' ⟨last.engine, p.calls.set k ⟨draw, last.stage⟩⟩ ∧
      labels'.flatten = labels.flatten ++ last.acts.map (k, ·) := by
  induction turns generalizing labels p stage with
  | zero =>
      obtain ⟨hlen, hcall⟩ := List.getElem?_eq_some_iff.mp hk
      refine ⟨labels, ?_, by simp [Stage.alone]⟩
      rw [Stage.alone, ← hcall, List.set_getElem_self]
      exact run
  | succ turns ih =>
      have hlen := (List.getElem?_eq_some_iff.mp hk).1
      obtain ⟨labels', hrun, hflat⟩ := ih (run.step (.turn k hk rfl)) (List.getElem?_set_self hlen)
      rw [List.set_set] at hrun
      exact ⟨labels', hrun, by simp [hflat, Stage.alone]⟩

-- A call that is left alone from its beginning on.
theorem run_alone {H : Digest} {start p : Pool} {labels : List (List (Nat × Act))}
    (run : Run (Step H) start labels p) (draw : Draw) {stage : Stage} (h : stage.Begins)
    (turns : Nat) :
    let last := stage.alone H draw turns p.engine
    ∃ labels', Run (Step H) start labels' ⟨last.engine, p.calls ++ [⟨draw, last.stage⟩]⟩ ∧
      labels'.flatten = labels.flatten ++ last.acts.map (p.calls.length, ·) := by
  have hnew : (p.calls ++ [⟨draw, stage⟩])[p.calls.length]? = some ⟨draw, stage⟩ := by simp
  obtain ⟨labels', hrun, hflat⟩ := run_turns (run.step (.call draw stage h)) hnew turns
  refine ⟨labels', ?_, by simp [hflat]⟩
  simpa using hrun

end Pool

end Rumor.Calls
