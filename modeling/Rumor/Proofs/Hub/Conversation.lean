import Rumor.Proofs.Frame.Grammar
import Rumor.Proofs.Hub.Alone
import Rumor.Proofs.Message

-- What one connection does is fixed by the bytes that its client sends.
namespace Rumor.Hub

open Api (Bridge Connection Rejection)
open Rumor.Frame (Short Wrong Written)

variable {deeds : Deeds} {c c' : Client} {b b' : Bridge} {deed : Deed} {reading : Reading}
  {fresh : MessageId} {connection : Connection} {bytes rest : Bytes}

-- Whether the connection stays open after this.
def Reading.goesOn : Reading → Bool
  | .frame (.notify _ datatype) => !Kind.reserved datatype
  | .frame (.validation ..) => true
  | _ => false

-- The frames of a stream, and what stands behind them.
def readingsOf (taken : Frame.Taken) : List Reading :=
  taken.frames.map .frame ++ [taken.error.elim .ended .fault]

-- What comes first in the rest of a stream, which may have ended.
inductive Reading.Heads (ended : Bool) (rest : Bytes) : Reading → Prop
  | frame {f : Frame} {bytes more : Bytes} (h : f.encode = .ok bytes)
      (hrest : rest = bytes ++ more) :
      Heads ended rest (.frame f)
  | wrong {error : WireError} (h : Wrong rest error) : Heads ended rest (.fault error)
  | short {error : WireError} (hended : ended = true) (hrest : rest ≠ []) (h : Short rest error) :
      Heads ended rest (.fault error)
  | ended (hended : ended = true) (hrest : rest = []) : Heads ended rest .ended

-- More bytes change nothing about it, and no more come after the end.
theorem Reading.Heads.append (h : reading.Heads false rest) (more : Bytes) :
    reading.Heads false (rest ++ more) := by
  cases h with
  | frame hf hrest => exact .frame hf (by rw [hrest, List.append_assoc])
  | wrong h => exact .wrong (h.append more)
  | short hended => cases hended
  | ended hended => cases hended

theorem Reading.Heads.end {ended : Bool} (h : reading.Heads ended rest) :
    reading.Heads true rest := by
  cases h with
  | frame hf hrest => exact .frame hf hrest
  | wrong h => exact .wrong h
  | short _ hrest h => exact .short rfl hrest h
  | ended _ hrest => exact .ended rfl hrest

theorem Reading.Heads.readingsOf {ended : Bool} (h : reading.Heads ended rest) :
    [reading] <+: readingsOf (Frame.takeLast rest) := by
  cases h with
  | frame hf hrest =>
      have hwritten := Frame.takeLast_written (.cons hf .nil)
      rw [List.append_nil] at hwritten
      rw [hrest, hwritten]
      exact ⟨_, rfl⟩
  | wrong h =>
      obtain ⟨last, hlast⟩ := Frame.takeLast_of_wrong h
      rw [hlast]
      exact List.prefix_refl _
  | short _ hrest h =>
      rw [Frame.takeLast_of_short h hrest]
      exact List.prefix_refl _
  | ended _ hrest =>
      rw [hrest, Frame.takeLast_nil]
      exact List.prefix_refl _

theorem Client.next?_heads (h : c.next? = some (reading, rest)) :
    reading.Heads c.ended c.connection.buffer := by
  unfold next? at h
  cases hended : c.ended with
  | false =>
      simp only [hended, Bool.false_eq_true, if_false] at h
      cases hfront : Frame.front c.connection.buffer with
      | incomplete => simp [hfront] at h
      | frame f more =>
          obtain ⟨bytes, hf, hbuffer⟩ := Frame.exists_encode_of_front hfront
          simp only [hfront, Option.some.injEq, Prod.mk.injEq] at h
          exact h.1 ▸ .frame hf hbuffer
      | fault error more =>
          simp only [hfront, Option.some.injEq, Prod.mk.injEq] at h
          exact h.1 ▸ .wrong (Frame.wrong_of_front hfront)
  | true =>
      simp only [hended, if_true] at h
      rcases Frame.lastFront_cases c.connection.buffer with hnil | ⟨f, more, hfront, hlast⟩ |
        ⟨error, more, hne, hstop, hlast⟩
      · rw [hnil, Frame.lastFront_nil] at h
        cases h
        exact .ended rfl hnil
      · obtain ⟨bytes, hf, hbuffer⟩ := Frame.exists_encode_of_front hfront
        rw [hlast] at h
        cases h
        exact .frame hf hbuffer
      · rw [hlast] at h
        cases h
        rcases hstop with hshort | hwrong
        · exact .short rfl hne hshort
        · exact .wrong hwrong

-- A frame is taken out of the buffer.
theorem Client.next?_frame {f : Frame} (h : c.next? = some (.frame f, rest)) :
    ∃ bytes, f.encode = .ok bytes ∧ c.connection.buffer = bytes ++ rest := by
  have hfront : Frame.front c.connection.buffer = .frame f rest := by
    unfold next? at h
    cases hended : c.ended with
    | false => cases hfront : Frame.front c.connection.buffer <;> simp_all
    | true =>
        rcases Frame.lastFront_cases c.connection.buffer with
          hnil | ⟨f, more, hfront, hlast⟩ | ⟨error, more, hne, hstop, hlast⟩
        · simp [hended, hnil, Frame.lastFront_nil] at h
        · simp_all
        · simp [hended, hlast] at h
  exact Frame.exists_encode_of_front hfront

-- How a conversation may end: what is read last, what is written about it, and what
-- is put on the queue of announced messages, which is `met` as it is then.
inductive Parting (self : String) (met : Queue Message) : Reading → List Bytes → List Message → Prop
  | announced {ttl reserved : UInt8} {datatype : UInt16} {payload : Bytes} {m : Message}
      (hfree : Kind.reserved datatype = false) (hroom : met.hasRoom = true)
      (hkind : m.kind? = some (.data datatype)) (hpayload : m.payload = payload)
      (httl : m.ttl.toInt = ttl.toNat) (hsender : m.sender = self) :
      Parting self met (.frame (.announce ttl reserved datatype payload)) [] [m]
  | noRoom {ttl reserved : UInt8} {datatype : UInt16} {payload : Bytes}
      (hfree : Kind.reserved datatype = false) (hroom : met.hasRoom = false) :
      Parting self met (.frame (.announce ttl reserved datatype payload))
        [Rejection.noReceiver.line] []
  | reservedAnnounce {ttl reserved : UInt8} {datatype : UInt16} {payload : Bytes}
      (hreserved : Kind.reserved datatype = true) :
      Parting self met (.frame (.announce ttl reserved datatype payload))
        [(Rejection.reserved datatype).line] []
  | reservedNotify {reserved datatype : UInt16} (hreserved : Kind.reserved datatype = true) :
      Parting self met (.frame (.notify reserved datatype)) [(Rejection.reserved datatype).line] []
  | notification {id datatype : UInt16} {payload : Bytes} :
      Parting self met (.frame (.notification id datatype payload)) [Rejection.notForServer.line] []
  | fault {error : WireError} : Parting self met (.fault error) [(Rejection.wire error).line] []
  | ended : Parting self met .ended [] []

theorem Reading.parts_of_reply {r : Rejection}
    (hturn : reading.turn fresh connection b = ⟨.reply r, connection, b⟩)
    (hparting : Parting b.self b.announces reading [r.line] []) :
    let turn := reading.turn fresh connection b
    turn.next ≠ .go ∧
      Parting b.self b.announces reading (Deeds.lines [.read reading b turn])
        (Deeds.announced [.read reading b turn]) := by
  rw [hturn]
  exact ⟨by simp,
    by simpa [Deeds.lines, Deeds.announced, Deed.line?, Deed.announced] using hparting⟩

-- A connection that does not go on parts.
theorem Reading.turn_parts (h : reading.goesOn = false) (fresh : MessageId)
    (connection : Connection) (b : Bridge) :
    let turn := reading.turn fresh connection b
    turn.next ≠ .go ∧
      Parting b.self b.announces reading (Deeds.lines [.read reading b turn])
        (Deeds.announced [.read reading b turn]) := by
  match reading, h with
  | .frame (.announce ttl reserved datatype payload), _ =>
      obtain ⟨hreserved, hcase⟩ | ⟨hfree, hroom, hcase⟩ | ⟨hfree, hroom, hcase⟩ :=
        b.announce_cases fresh ttl datatype payload
      · exact parts_of_reply (Connection.onFrame_announce hcase reserved)
          (.reservedAnnounce hreserved)
      · exact parts_of_reply (Connection.onFrame_announce hcase reserved) (.noRoom hfree hroom)
      · simp only [turn, Connection.onFrame_announce hcase]
        refine ⟨by simp, ?_⟩
        simp only [Deeds.lines, Deeds.announced, Deed.line?, Deed.announced, List.filterMap_cons,
          List.filterMap_nil, List.flatMap_cons, List.flatMap_nil, List.drop_left, List.append_nil]
        exact .announced hfree hroom (Message.kind?_data _ _ _ _ hfree) rfl
          (Int32.toInt_ofNat_of_lt (Nat.lt_trans ttl.toNat_lt (by decide))) rfl
  | .frame (.notify reserved datatype), h =>
      have hreserved : Kind.reserved datatype = true := by simpa [goesOn] using h
      exact parts_of_reply (by rw [turn, Connection.onFrame_notify_of_reserved hreserved])
        (.reservedNotify hreserved)
  | .frame (.notification ..), _ => exact parts_of_reply rfl .notification
  | .fault _, _ => exact parts_of_reply rfl .fault
  | .ended, _ =>
      exact ⟨by simp [turn], by simpa [turn, Deeds.lines, Deeds.announced, Deed.line?,
        Deed.announced] using .ended⟩

theorem Reading.turn_goes (h : reading.goesOn = true) (fresh : MessageId) (connection : Connection)
    (b : Bridge) :
    let turn := reading.turn fresh connection b
    turn.next = .go ∧ Deeds.lines [.read reading b turn] = [] ∧
    Deeds.announced [.read reading b turn] = [] := by
  match reading, h with
  | .frame (.notify reserved datatype), h =>
      have hfree : Kind.reserved datatype = false := by simpa [goesOn] using h
      simp [turn, Connection.onFrame_notify_of_free hfree, Deeds.lines, Deeds.announced, Deed.line?,
        Deed.announced]
  | .frame (.validation ..), _ =>
      simp [turn, Connection.onFrame, Deeds.lines, Deeds.announced, Deed.line?, Deed.announced]

-- How far a conversation has come. While the connection is open, what it read and
-- what waits in its buffer are all that was sent.
inductive Heard (deeds : Deeds) (c : Client) : Prop
  | listening {frames : List Frame} {bytes : Bytes} (hopen : c.connection.isOpen = true)
      (hreadings : deeds.readings = frames.map .frame)
      (hgoes : ∀ r ∈ frames.map Reading.frame, r.goesOn = true)
      (hwritten : Written frames bytes) (hstream : deeds.stream = bytes ++ c.connection.buffer)
      (hlines : deeds.lines = []) (hannounced : deeds.announced = [])
  | parted {frames : List Frame} {bytes rest : Bytes} {last : Reading} {met : Bridge}
      {turn : Api.Turn} (hclosed : c.connection.isOpen = false)
      (hreadings : deeds.readings = frames.map .frame ++ [last])
      (hgoes : ∀ r ∈ frames.map Reading.frame, r.goesOn = true) (hwritten : Written frames bytes)
      (hstream : deeds.stream = bytes ++ rest) (hheads : last.Heads c.ended rest)
      (hread : .read last met turn ∈ deeds)
      (hparting : Parting met.self met.announces last deeds.lines deeds.announced)
  | cut (hclosed : c.connection.isOpen = false) (hcut : .broke ∈ deeds ∨ .stopped ∈ deeds)

theorem heard_accepted (name : String) : Heard [] (.accepted name) :=
  have hnone : Deeds.readings [] = ([] : List Frame).map .frame := rfl
  .listening rfl hnone (by simp) .nil rfl rfl rfl

theorem Deed.silent (h : deed.reading? = none) :
    Deeds.readings [deed] = [] ∧ Deeds.lines [deed] = [] ∧ Deeds.announced [deed] = [] := by
  cases deed with
  | read reading met turn => cases h
  | _ => exact ⟨rfl, rfl, rfl⟩

-- A deed that neither sends nor reads.
theorem Heard.quiet (h : Heard deeds c) (hbytes : deed.bytes = []) (hreading : deed.reading? = none)
    (hopen : c'.connection.isOpen = c.connection.isOpen)
    (hbuffer : c.connection.isOpen = true → c'.connection.buffer = c.connection.buffer)
    (hended : c'.ended = c.ended ∨ c'.ended = true) : Heard (deeds ++ [deed]) c' := by
  obtain ⟨hreadings, hlines, hannounced⟩ := Deed.silent hreading
  have hstream : Deeds.stream [deed] = [] := by simp [Deeds.stream, hbytes]
  cases h with
  | listening ho hr hgoes hwritten hs hl ha =>
      exact .listening (hopen.trans ho) (by simpa [hreadings] using hr) hgoes hwritten
        (by simpa [hstream, hbuffer ho] using hs) (by simpa [hlines] using hl)
        (by simpa [hannounced] using ha)
  | parted hc hr hgoes hwritten hs hheads hread hparting =>
      refine .parted (hopen.trans hc) (by simpa [hreadings] using hr) hgoes hwritten
        (by simpa [hstream] using hs) ?_
        (List.mem_append_left _ hread) (by simpa [hlines, hannounced] using hparting)
      rcases hended with hended | hended
      · exact hended ▸ hheads
      · exact hended ▸ hheads.end
  | cut hc hcut =>
      exact .cut (hopen.trans hc) (hcut.imp (List.mem_append_left _) (List.mem_append_left _))

theorem Heard.sent (h : Heard deeds c) (hmore : c.ended = false) (bytes : Bytes) :
    Heard (deeds ++ [.sent bytes]) (c.gets bytes) := by
  have hnone : (Deed.sent bytes).reading? = none := rfl
  obtain ⟨hreadings, hlines, hannounced⟩ := Deed.silent hnone
  have hbytes : Deeds.stream [.sent bytes] = bytes := by simp [Deeds.stream, Deed.bytes]
  cases h with
  | listening ho hr hgoes hwritten hs hl ha =>
      rw [Client.gets_of_open ho]
      exact .listening ho (by simpa [hreadings] using hr) hgoes hwritten (by simp [hbytes, hs])
        (by simpa [hlines] using hl) (by simpa [hannounced] using ha)
  | parted hc hr hgoes hwritten hs hheads hread hparting =>
      rw [Client.gets_of_closed hc]
      rw [hmore] at hheads
      exact .parted hc (by simpa [hreadings] using hr) hgoes hwritten
        (by rw [Deeds.stream_append, hs, hbytes, List.append_assoc]) (hmore ▸ hheads.append bytes)
        (List.mem_append_left _ hread) (by simpa [hlines, hannounced] using hparting)
  | cut hc hcut =>
      rw [Client.gets_of_closed hc]
      exact .cut hc (hcut.imp (List.mem_append_left _) (List.mem_append_left _))

theorem Heard.read (h : Heard deeds c) (fresh : MessageId) (b : Bridge)
    (hopen : c.connection.isOpen = true) (hnext : c.next? = some (reading, rest)) :
    let turn := reading.turn fresh c.connection b
    Heard (deeds ++ [.read reading b turn]) (c.after turn rest) := by
  intro turn
  have hread : Deeds.readings [.read reading b turn] = [reading] := rfl
  have hsilent : Deeds.stream [.read reading b turn] = [] := rfl
  cases h with
  | parted hc | cut hc => exact absurd (hc.symm.trans hopen) Bool.false_ne_true
  | @listening frames bytes _ hr hgoes hwritten hs hl ha =>
      cases hgo : reading.goesOn with
      | true =>
          obtain ⟨hnextgo, hline, hannounce⟩ := Reading.turn_goes hgo fresh c.connection b
          cases reading with
          | frame f =>
              obtain ⟨first, hf, hbuffer⟩ := Client.next?_frame hnext
              have hmore : Written (frames ++ [f]) (bytes ++ first) :=
                hwritten.append (List.append_nil first ▸ .cons hf .nil)
              refine .listening (decide_eq_true hnextgo) (by simp [hr, hread]) ?_ hmore ?_
                (by simp [hl, hline, turn]) (by simp [ha, hannounce, turn])
              · intro r hmem
                rw [List.map_append] at hmem
                rcases List.mem_append.mp hmem with hmem | hmem
                · exact hgoes r hmem
                · exact List.mem_singleton.mp hmem ▸ hgo
              · simp [hs, hbuffer, hsilent, Client.after]
          | fault error | ended => cases hgo
      | false =>
          obtain ⟨hstops, hparting⟩ := Reading.turn_parts hgo fresh c.connection b
          have hmem : .read reading b turn ∈ deeds ++ [.read reading b turn] := by simp
          have hheads : reading.Heads (c.after turn rest).ended c.connection.buffer :=
            Client.next?_heads hnext
          refine .parted (decide_eq_false hstops) (by simp [hr, hread]) hgoes hwritten
            (by simpa [hsilent] using hs) hheads hmem ?_
          simpa [hl, ha] using hparting

theorem Heard.step {name : String} (h : Heard deeds c) (htold : Client.Told name deeds c)
    (hs : c.Step b deed c' b') : Heard (deeds ++ [deed]) c' := by
  cases hs with
  | send bytes hmore => exact h.sent hmore bytes
  | read fresh hopen hidle hnext hturn => exact hturn ▸ h.read fresh b hopen hnext
  | lose hopen => exact .cut rfl (Or.inl (by simp))
  | stop hopen hidle => exact .cut rfl (Or.inr (by simp))
  | finish => exact h.quiet rfl rfl rfl (fun _ => rfl) (Or.inr rfl)
  | drop hleft =>
      have hclosed : c.connection.isOpen ≠ true := fun hopen =>
        Bool.false_ne_true ((htold.opened hopen).symm.trans hleft)
      exact h.quiet rfl rfl rfl (fun hopen => absurd hopen hclosed) (Or.inl rfl)
  | _ => exact h.quiet rfl rfl rfl (fun _ => rfl) (Or.inl rfl)

theorem heard_of_run {name : String} (run : Run Client.Moves (.accepted name) deeds c) :
    Heard deeds c := by
  induction run with
  | refl => exact heard_accepted name
  | step hrun hs ih =>
      obtain ⟨_, _, hs⟩ := hs
      exact ih.step (Client.told_of_run hrun) hs

-- A connection leaves the queue of announced messages as it met it, apart from what
-- it puts at the end.
theorem Reading.announces_isPrefix :
    b.announces.items <+: (reading.turn fresh connection b).bridge.announces.items := by
  match reading with
  | .frame (.announce ttl reserved datatype payload) =>
      obtain ⟨_, hcase⟩ | ⟨_, _, hcase⟩ | ⟨_, _, hcase⟩ :=
        b.announce_cases fresh ttl datatype payload
      · rw [turn, Connection.onFrame_announce hcase]
      · rw [turn, Connection.onFrame_announce hcase]
      · rw [turn, Connection.onFrame_announce hcase]
        exact List.prefix_append _ _
  | .frame (.notify reserved datatype) =>
      cases hreserved : Kind.reserved datatype with
      | true => rw [turn, Connection.onFrame_notify_of_reserved hreserved]
      | false => rw [turn, Connection.onFrame_notify_of_free hreserved]
  | .frame (.validation ..) | .frame (.notification ..) | .fault _ | .ended =>
      exact List.prefix_refl _

-- A connection only adds to the queue of announced messages, and writes no notes but
-- those from its own queue.
structure Fair (deeds : Deeds) (c : Client) : Prop where
  announces : ∀ reading met turn, .read reading met turn ∈ deeds →
    met.announces.items <+: turn.bridge.announces.items
  writing : ∀ note, c.writing = some note → .picked note ∈ deeds
  wrote : ∀ note bytes, .wrote note bytes ∈ deeds → .picked note ∈ deeds

theorem Fair.step (h : Fair deeds c) (hs : c.Step b deed c' b') : Fair (deeds ++ [deed]) c' := by
  constructor
  · intro reading met turn hmem
    rcases List.mem_append.mp hmem with hmem | hmem
    · exact h.announces _ _ _ hmem
    · obtain rfl := List.mem_singleton.mp hmem
      cases hs with
      | read _ _ _ _ hturn => exact hturn ▸ Reading.announces_isPrefix
  · intro note hwriting
    cases hs with
    | send bytes _ =>
        obtain ⟨_, hgets⟩ := c.gets_eq bytes
        rw [hgets] at hwriting
        exact List.mem_append_left _ (h.writing note hwriting)
    | pick => exact List.mem_append_right _ (by simpa using hwriting.symm)
    | write | lose | stop => cases hwriting
    | _ => exact List.mem_append_left _ (h.writing note hwriting)
  · intro note bytes hmem
    rcases List.mem_append.mp hmem with hmem | hmem
    · exact List.mem_append_left _ (h.wrote note bytes hmem)
    · obtain rfl := List.mem_singleton.mp hmem
      cases hs with
      | write hwriting _ => exact List.mem_append_left _ (h.writing note hwriting)

theorem fair_of_run {name : String} (run : Run Client.Moves (.accepted name) deeds c) :
    Fair deeds c := by
  induction run with
  | refl => exact ⟨by simp, by simp [Client.accepted], by simp⟩
  | step _ hs ih =>
      obtain ⟨_, _, hs⟩ := hs
      exact ih.step hs

-- What was read is what stands first in all that was sent.
theorem readings_isPrefix {frames : List Frame} {last : Reading} {ended : Bool}
    (hwritten : Written frames bytes) (hheads : last.Heads ended rest) :
    frames.map .frame ++ [last] <+: readingsOf (Frame.takeLast (bytes ++ rest)) := by
  obtain ⟨more, hmore⟩ := hheads.readingsOf
  refine ⟨more, ?_⟩
  rw [Frame.takeLast_written hwritten, List.append_assoc, hmore]
  simp [readingsOf, Frame.Taken.behind]

section Run

variable {H : Digest} {h h' : Hub} {events : Events} {name self : String} {settings : Settings}
  {announceQueue dispatchQueue noteQueue : Nat}

theorem Client.Step.self_eq (hs : c.Step b deed c' b') : b'.self = b.self := by
  cases hs with
  | @read reading rest turn fresh hopen hidle hnext hturn =>
      subst hturn
      cases hasks : reading.asks? with
      | some datatype => rw [Reading.turn_of_asks hasks]
      | none =>
          obtain ⟨_, announces, hbridge⟩ := Reading.turn_of_asks_none hasks fresh c.connection b
          rw [hbridge]
  | _ => rfl

-- The node keeps its address, and connections announce in its name.
theorem self_of_run
    (run : Run (Step H) (start self settings announceQueue dispatchQueue noteQueue) events h)
    (name : String) :
    h.bridge.self = self ∧ ∀ reading met turn, .read reading met turn ∈ events.deeds name →
    met.self = self := by
  induction run with
  | refl => exact ⟨rfl, by simp [Events.deeds]⟩
  | step _ hs ih =>
      obtain ⟨hself, hmet⟩ := ih
      cases hs with
      | @did other c c' b deed hname hstep =>
          refine ⟨hstep.self_eq.trans hself, fun reading met turn hmem => ?_⟩
          rw [Events.deeds_append, Events.deeds_did] at hmem
          rcases List.mem_append.mp hmem with hmem | hmem
          · exact hmet _ _ _ hmem
          · split at hmem
            · rw [List.mem_singleton] at hmem
              subst hmem
              cases hstep
              exact hself
            · cases hmem
      | _ => exact ⟨hself, by simpa using hmet⟩

-- A connection changes no entry of the interest map but its own.
theorem unsubscribe_of_acts {deeds : Deeds} (run : Run Client.Acts (c, b) deeds (c', b')) :
    (b'.interest.unsubscribe c.connection.name).2 =
      (b.interest.unsubscribe c.connection.name).2 := by
  have hall : (b'.interest.unsubscribe c.connection.name).2 =
      (b.interest.unsubscribe c.connection.name).2 ∧ c'.connection.name = c.connection.name := by
    generalize hend : (c', b') = s at run
    induction run generalizing c' b' with
    | refl =>
        cases hend
        exact ⟨rfl, rfl⟩
    | @step deeds s s' deed _ hs ih =>
        subst hend
        obtain ⟨hinterest, hname⟩ := ih rfl
        have hkept := hs.name_eq.trans hname
        refine ⟨?_, hkept⟩
        rw [← hinterest, ← hname]
        rcases hs.interest_cases with ⟨datatype, _, _, hnew⟩ | ⟨_, _, hnew⟩ | ⟨_, _, hnew⟩
        · rw [hnew, Interest.unsubscribe_subscribe]
        · rw [hnew]
          split
          · exact Interest.unsubscribe_unsubscribe _ _
          · rfl
        · rw [hnew]
  exact hall.1

-- A connection that is not in the middle of a note can always come to its end.
theorem exists_end (b : Bridge) (hidle : c.writing = none) (hleft : c.left = false) :
    ∃ (deeds : Deeds) (c' : Client) (b' : Bridge), Run Client.Acts (c, b) deeds (c', b') ∧
      .left ∈ deeds ∧ .broke ∉ deeds ∧ .stopped ∉ deeds ∧ deeds.stream = [] := by
  cases hopen : c.connection.isOpen with
  | true =>
      obtain ⟨deeds, c', halone⟩ := finish_alone 0 b hopen hidle hleft
      have hended : Client.Acts (c, b) .ended ({ c with ended := true }, b) := .finish
      refine ⟨_, c', _, (Run.single hended).append halone.run, ?_, ?_, ?_, ?_⟩
      · exact List.mem_append_right _ (halone.left (Connection.finish_isOpen 0 c.connection b))
      · simp [halone.kept.1]
      · simp [halone.kept.2]
      · exact halone.stream
  | false =>
      obtain ⟨c', hrun, _⟩ := close_acts (b := b) hopen hleft
      exact ⟨_, c', _, hrun, by simp, by simp, by simp, rfl⟩

-- A conversation that nobody breaks off.
structure Concluded (address : String) (deeds : Deeds) (early : List Reading) (last : Reading)
    (met : Bridge) : Prop where
  readings : deeds.readings = early ++ [last]
  stream : early ++ [last] <+: readingsOf (Frame.takeLast deeds.stream)
  goesOn : ∀ reading ∈ early, reading.goesOn = true
  read : ∃ turn, .read last met turn ∈ deeds
  parting : Parting address met.announces last deeds.lines deeds.announced
  announces : ∀ reading met turn, .read reading met turn ∈ deeds →
    met.announces.items <+: turn.bridge.announces.items
  wrote : ∀ note bytes, .wrote note bytes ∈ deeds → .picked note ∈ deeds

theorem Parting.asks?_eq_none {met : Queue Message} {last : Reading} {lines : List Bytes}
    {announced : List Message} (h : Parting self met last lines announced) : last.asks? = none := by
  cases h with
  | reservedNotify hreserved => simp [Reading.asks?, hreserved]
  | _ => rfl

theorem exists_concluded
    (run : Run (Step H) (start self settings announceQueue dispatchQueue noteQueue) events h)
    (hleft : .left ∈ events.deeds name) (hkept : .broke ∉ events.deeds name)
    (hgoes : .stopped ∉ events.deeds name) :
    ∃ early last met, Concluded self (events.deeds name) early last met := by
  rcases client_of_new run rfl with ⟨_, hnone⟩ | ⟨c, hc, hrun⟩
  · rw [hnone] at hleft
    cases hleft
  · have htold := Client.told_of_run hrun
    have hclosed : c.connection.isOpen ≠ true := fun hopen => by
      have hstays := htold.opened hopen
      rw [htold.left.mpr hleft] at hstays
      cases hstays
    cases heard_of_run hrun with
    | listening hopen => exact absurd hopen hclosed
    | cut _ hcut => exact absurd hcut (not_or.mpr ⟨hkept, hgoes⟩)
    | parted _ hreadings hgoes hwritten hstream hheads hread hparting =>
        have hself := (self_of_run run name).2 _ _ _ hread
        have hfair := fair_of_run hrun
        exact ⟨_, _, _, hreadings, hstream ▸ readings_isPrefix hwritten hheads, hgoes, ⟨_, hread⟩,
          hself ▸ hparting, hfair.announces, hfair.wrote⟩

-- At some time the interest map holds what was asked for, and at no time anything else.
theorem exists_holds_iff
    (run : Run (Step H) (start self settings announceQueue dispatchQueue noteQueue) events h)
    (datatype : UInt16) :
    (∃ before after hub, events = before ++ after ∧
      Run (Step H) (start self settings announceQueue dispatchQueue noteQueue) before hub ∧
      Run (Step H) hub after h ∧ hub.bridge.interest.Holds name datatype) ↔
    datatype ∈ (events.deeds name).asked := by
  constructor
  · rintro ⟨before, after, hub, rfl, hbefore, _, hholds⟩
    rw [Events.deeds_append, Deeds.asked_append]
    exact List.mem_append_left _ (((known_of_run hbefore).holds name datatype).mp hholds).1
  · intro hasked
    obtain ⟨deed, hdeed, hasks⟩ := List.mem_filterMap.mp hasked
    obtain ⟨before, after, rfl⟩ := List.append_of_mem (Events.mem_deeds.mp hdeed)
    rw [List.append_cons] at run ⊢
    obtain ⟨hub, hbefore, hafter⟩ := run.split
    refine ⟨_, after, hub, rfl, hbefore, hafter,
      ((known_of_run hbefore).holds name datatype).mpr ⟨?_, ?_⟩⟩
    · simp [Deeds.asked, hasks]
    · obtain ⟨early, hearly, hs⟩ := hbefore.last
      have hdeed : deed ≠ .left := by
        rintro rfl
        cases hasks
      cases hs with
      | did hname hstep =>
          have htold := told_of_run hearly hname
          rcases hstep.interest_cases with ⟨_, _, hopen, _⟩ | ⟨hgone, _⟩ | ⟨hnone, _⟩
          · simp [← htold.left, htold.opened hopen, hdeed.symm]
          · exact absurd hgone hdeed
          · cases hasks.symm.trans hnone

theorem Concluded.asked_eq {early : List Reading} {last : Reading} {met : Bridge}
    (h : Concluded self deeds early last met) : deeds.asked = early.filterMap Reading.asks? := by
  have hlast := h.parting.asks?_eq_none
  rw [Deeds.asked_eq, h.readings, List.filterMap_append]
  simp [hlast]

end Run

-- What a client sends decides what its connection does, however it is cut and
-- whoever else is there. The connection acts on what it reads up to the first that it
-- does not go on after, and can always come to that.
theorem conversation_of_stream {H : Digest} {self : String} {settings : Settings}
    {announceQueue dispatchQueue noteQueue : Nat} {events : Events} {h : Hub}
    (run : Run (Step H) (start self settings announceQueue dispatchQueue noteQueue) events h)
    (name : String) :
    (.left ∈ events.deeds name → .broke ∉ events.deeds name → .stopped ∉ events.deeds name →
      ∃ early last met, Concluded self (events.deeds name) early last met ∧
        (∀ datatype, (∃ before after hub, events = before ++ after ∧
            Run (Step H) (start self settings announceQueue dispatchQueue noteQueue) before hub ∧
            Run (Step H) hub after h ∧ hub.bridge.interest.Holds name datatype) ↔
          ∃ reserved, .frame (.notify reserved datatype) ∈ early ∧ Kind.reserved datatype = false) ∧
        ∀ e ∈ h.bridge.interest.entries, e.connection ≠ name) ∧
    ∀ c, h.clients name = some c → c.writing = none → .left ∉ events.deeds name →
      ∃ (more : Deeds) (h' : Hub), Run (Step H) h (more.map (.did name)) h' ∧ .left ∈ more ∧
        .broke ∉ more ∧ .stopped ∉ more ∧ more.stream = [] ∧
        h'.bridge.interest = (h.bridge.interest.unsubscribe name).2 := by
  constructor
  · intro hleft hkept hgoes
    obtain ⟨early, last, met, hconcluded⟩ := exists_concluded run hleft hkept hgoes
    refine ⟨early, last, met, hconcluded, fun datatype => ?_, ?_⟩
    · rw [exists_holds_iff run, hconcluded.asked_eq, List.mem_filterMap]
      constructor
      · rintro ⟨reading, hmem, hasks⟩
        obtain ⟨reserved, rfl, hfree⟩ := Reading.asks?_eq_some.mp hasks
        exact ⟨reserved, hmem, hfree⟩
      · rintro ⟨reserved, hmem, hfree⟩
        exact ⟨_, hmem, Reading.asks?_eq_some.mpr ⟨reserved, rfl, hfree⟩⟩
    · exact (known_of_run run).tidy.ne_of_not_holds fun datatype hholds =>
        (((known_of_run run).holds name datatype).mp hholds).2 hleft
  · intro c hc hidle hstays
    have htold := told_of_run run hc
    have hleft : c.left = false := by
      by_contra hne
      exact hstays (htold.left.mp (Bool.eq_true_of_not_eq_false hne))
    obtain ⟨more, c', b', hacts, hend, hkept, hgoes, hstream⟩ := exists_end h.bridge hidle hleft
    have hdid := run_did (H := H) hacts hc
    refine ⟨more, _, hdid, hend, hkept, hgoes, hstream, ?_⟩
    have hknown := known_of_run (run.append hdid)
    have hgone : .left ∈ Events.deeds (events ++ more.map (.did name)) name := by
      rw [Events.deeds_append, Events.deeds_map_did]
      exact List.mem_append_right _ hend
    have hempty := hknown.tidy.ne_of_not_holds fun datatype hholds =>
      ((hknown.holds name datatype).mp hholds).2 hgone
    have hothers := unsubscribe_of_acts hacts
    rw [htold.name] at hothers
    rw [← hothers]
    exact (Interest.unsubscribe_of_not_mem hempty).symm

-- A client that asks for a datatype and then sends data of it, in two pieces.
def asking : Bytes :=
  [0, 8, 1, 245, 0, 0, 0, 7, 0, 9]

def telling : Bytes :=
  [1, 244, 3, 0, 0, 7, 5]

theorem exists_asking_and_telling : ∃ (deeds : Deeds) (c' : Client) (b' : Bridge),
    Run Client.Acts (.accepted "c", .start "a" 1 1) deeds (c', b') ∧
      .left ∈ deeds ∧ .broke ∉ deeds ∧ .stopped ∉ deeds ∧ deeds.stream = asking ++ telling ∧
      deeds.readings = [.frame (.notify 0 7), .frame (.announce 3 0 7 [5])] ∧ deeds.lines = [] := by
  let b₀ := Bridge.start "a" 1 1
  let c₁ := (Client.accepted "c").gets asking
  let asked := (Reading.frame (.notify 0 7)).turn 0 c₁.connection b₀
  let c₂ := (c₁.after asked [0, 9]).gets telling
  let told := (Reading.frame (.announce 3 0 7 [5])).turn 0 c₂.connection asked.bridge
  let c₃ := c₂.after told []
  have hnotify : (Frame.notify 0 7).encode = .ok [0, 8, 1, 245, 0, 0, 0, 7] := rfl
  have hannounce : (Frame.announce 3 0 7 [5]).encode = .ok ([0, 9] ++ telling) := rfl
  have hask : Client.Acts (.accepted "c", b₀) (.sent asking) (c₁, b₀) := .send _ rfl
  have hasked :
      Client.Acts (c₁, b₀) (.read (.frame (.notify 0 7)) b₀ asked)
        (c₁.after asked [0, 9], asked.bridge) :=
    .read 0 rfl rfl (next?_of_frame hnotify rfl) rfl
  have htell :
      Client.Acts (c₁.after asked [0, 9], asked.bridge) (.sent telling) (c₂, asked.bridge) :=
    .send _ rfl
  have htold :
      Client.Acts (c₂, asked.bridge) (.read (.frame (.announce 3 0 7 [5])) asked.bridge told)
        (c₃, told.bridge) :=
    .read 0 rfl rfl (next?_of_frame hannounce rfl) rfl
  have hleave : Client.Acts (c₃, told.bridge) .left ({ c₃ with left := true }, _) := .leave rfl rfl
  have hacts := ((((Run.single hask).step hasked).step htell).step htold).step hleave
  exact ⟨_, _, _, hacts, by simp, by simp, by simp, rfl, rfl, rfl⟩

theorem conversation_of_two_pieces : ∃ (events : Events) (h : Hub),
    Run (Step (.ofFunction id)) (start "a" {} 1 1 1) events h ∧
    (events.deeds "c").stream = asking ++ telling ∧
      (∃ met,
        Concluded "a" (events.deeds "c") [.frame (.notify 0 7)] (.frame (.announce 3 0 7 [5])) met) ∧
      (∃ m : Message, (events.deeds "c").announced = [m] ∧ m.kind? = some (.data 7) ∧
        m.payload = [5] ∧ m.ttl.toInt = 3 ∧ m.sender = "a") ∧
      ∀ e ∈ h.bridge.interest.entries, e.connection ≠ "c" := by
  obtain ⟨deeds, c', b', hacts, hleft, hkept, hgoes, hstream, hreadings, hlines⟩ :=
    exists_asking_and_telling
  have haccept : Step (.ofFunction id) (start "a" {} 1 1 1) .quiet _ := .accept "c" rfl
  have hclient : ((start "a" {} 1 1 1).put "c" (.accepted "c")).clients "c" =
      some (.accepted "c") := by simp
  have hrun := (Run.single haccept).append (run_did hacts hclient)
  have hdeeds : Events.deeds ([.quiet] ++ deeds.map (.did "c")) "c" = deeds := by
    rw [Events.deeds_append, Events.deeds_map_did]
    rfl
  have hmain := (conversation_of_stream hrun "c").1
  rw [hdeeds] at hmain
  obtain ⟨early, last, met, hconcluded, _, hgone⟩ := hmain hleft hkept hgoes
  have hread : [Reading.frame (.notify 0 7)] ++ [.frame (.announce 3 0 7 [5])] = early ++ [last] :=
    hreadings.symm.trans hconcluded.readings
  obtain ⟨rfl, hlast⟩ := List.append_inj' hread rfl
  obtain rfl := List.singleton_inj.mp hlast
  refine ⟨_, _, hrun, hdeeds.symm ▸ hstream, ⟨met, hdeeds.symm ▸ hconcluded⟩, ?_, hgone⟩
  have hparting := hconcluded.parting
  rw [hdeeds]
  rw [hlines] at hparting
  generalize deeds.announced = announced at hparting
  cases hparting with
  | announced _ _ hkind hpayload httl hsender => exact ⟨_, rfl, hkind, hpayload, httl, hsender⟩

end Rumor.Hub
