import Rumor.Proofs.Hub.Announcing

-- A client that announces data and the node that it talks to, with what is on its way
-- between them. The client takes silence for consent.
namespace Rumor.Hub

-- How a client comes to its result. The server closed, it did not close in time, or
-- the data could not be sent or the answer not be read.
inductive Ending
  | closed (reply : Bytes)
  | gaveUp
  | failed (error : NodeError)

def Ending.result : Ending → Except NodeError Unit
  | .closed reply => Api.Client.announced (some reply)
  | .gaveUp => Api.Client.announced none
  | .failed error => .error error

inductive Announcer
  | sending (rest : Bytes)
  | waiting
  | returned (ending : Ending)

-- What the server wrote for its client.
def Deed.reply (deed : Deed) : Bytes :=
  (deed.wrote?.map (·.2)).getD [] ++ deed.line?.getD []

def Deeds.reply (deeds : Deeds) : Bytes :=
  deeds.flatMap Deed.reply

-- A node, the client of one of its connections, and the bytes on their way up to the
-- server and down to the client.
structure Exchange where
  hub : Hub
  announcer : Announcer
  up : Bytes
  down : Bytes

namespace Exchange

-- Data that fits no frame is not sent.
def start (h : Hub) (ttl : UInt8) (datatype : UInt16) (payload : Bytes) : Exchange :=
  match Api.Client.announceBytes ttl datatype payload with
  | .ok bytes => ⟨h, .sending bytes, [], []⟩
  | .error error => ⟨h, .returned (.failed error), [], []⟩

-- The client of `name` and the node take turns in any order. No bytes are lost on their
-- way, but a connection is reset that the server closed, or never took, with bytes unread.
inductive Step (H : Digest) (name : String) : Exchange → Event → Exchange → Prop
  | write {x : Exchange} (piece rest : Bytes) (h : x.announcer = .sending (piece ++ rest)) :
      Step H name x .quiet { x with announcer := .sending rest, up := x.up ++ piece }
  | sent {x : Exchange} (h : x.announcer = .sending []) :
      Step H name x .quiet { x with announcer := .waiting }
  | deliver {x : Exchange} {hub : Hub} {c : Client} (piece rest : Bytes)
      (hup : x.up = piece ++ rest)
      (hc : x.hub.clients name = some c) (hopen : c.connection.isOpen = true)
      (hs : x.hub.Step H (.did name (.sent piece)) hub) :
      Step H name x (.did name (.sent piece)) { x with hub, up := rest }
  | node {x : Exchange} {hub : Hub} {event : Event} (hs : x.hub.Step H event hub)
      (hsent : ∀ bytes, event ≠ .did name (.sent bytes)) (hended : event ≠ .did name .ended) :
      Step H name x event { x with hub, down := x.down ++ (Events.deeds [event] name).reply }
  | hear {x : Exchange} {c : Client} (h : x.announcer = .waiting) (hc : x.hub.clients name = some c)
      (hleft : c.left = true) :
      Step H name x .quiet { x with announcer := .returned (.closed x.down) }
  | giveUp {x : Exchange} (h : x.announcer = .waiting) :
      Step H name x .quiet { x with announcer := .returned .gaveUp }
  | fail {x : Exchange} {rest : Bytes} (fault : SystemFault) (h : x.announcer = .sending rest)
      (hrest : rest ≠ []) :
      Step H name x .quiet { x with announcer := .returned (.failed (.io fault)) }
  | reset {x : Exchange} (fault : SystemFault) (h : x.announcer = .waiting) (hup : x.up ≠ [])
      (hclosed : ∀ c, x.hub.clients name = some c → c.left = true) :
      Step H name x .quiet { x with announcer := .returned (.failed (.io fault)), up := [] }
  -- The client is gone, and the server reads what is left and then the end.
  | finish {x : Exchange} {hub : Hub} {ending : Ending} (h : x.announcer = .returned ending)
      (hup : x.up = [])
      (hs : x.hub.Step H (.did name .ended) hub) : Step H name x (.did name .ended) { x with hub }

variable {H : Digest} {name : String} {x x' : Exchange} {event : Event} {events : Events}
  {ending : Ending}

-- The client's own steps change nothing at the node.
theorem Step.hub (hs : Step H name x event x') : ∃ events', Run (Hub.Step H) x.hub events' x'.hub ∧
    Events.deeds events' name = Events.deeds [event] name := by
  cases hs with
  | deliver _ _ _ _ _ hs | node hs | finish _ _ hs => exact ⟨_, .single hs, rfl⟩
  | _ => exact ⟨[], .refl, rfl⟩

theorem Step.returned (hs : Step H name x event x') (h : x.announcer = .returned ending) :
    x'.announcer = .returned ending := by
  cases hs with
  | deliver | node | finish => exact h
  | write _ _ h' | sent h' | hear h' | giveUp h' | fail _ h' | reset _ h' =>
      exact nomatch h.symm.trans h'

theorem returned_of_run (run : Run (Step H name) x events x') (h : x.announcer = .returned ending) :
    x'.announcer = .returned ending :=
  run.invariant (P := fun x => x.announcer = .returned ending) h fun _ _ _ h hs => hs.returned h

end Exchange

-- The one message that a connection put on the queue is of this data.
def Queued (deeds : Deeds) (ttl : UInt8) (datatype : UInt16) (payload : Bytes) : Prop :=
  ∃ m, deeds.announced = [m] ∧ m.kind? = some (.data datatype) ∧ m.payload = payload ∧
  m.ttl.toInt = ttl.toNat

section Answer

variable {deeds more : Deeds} {f : Frame} {reply : Bytes} {self : String} {met : Queue Message}
  {lines : List Bytes} {ttl reserved : UInt8} {datatype : UInt16} {payload : Bytes}

theorem Deeds.reply_append (a b : Deeds) : Deeds.reply (a ++ b) = a.reply ++ b.reply :=
  List.flatMap_append

-- Without notes, all that is written is reasons.
theorem Deeds.reply_eq (h : deeds.written = []) : deeds.reply = deeds.lines.flatten := by
  induction deeds with
  | nil => rfl
  | cons deed rest ih =>
      have hnone : ∀ d ∈ deed :: rest, d.wrote? = none := List.filterMap_eq_nil_iff.mp h
      have hrest : Deeds.written rest = [] :=
        List.filterMap_eq_nil_iff.mpr fun d hd => hnone d (List.mem_cons_of_mem _ hd)
      have hreply : Deeds.reply (deed :: rest) = deed.line?.getD [] ++ Deeds.reply rest := by
        simp [Deeds.reply, Deed.reply, hnone deed List.mem_cons_self]
      rw [hreply, ih hrest]
      cases hline : deed.line? <;> simp [Deeds.lines, hline]

-- What a client has been told that heard its server close.
structure Answer (f : Frame) (reply : Bytes) (deeds : Deeds) : Prop where
  left : .left ∈ deeds
  told : reply = [] ∧ deeds.announced = [] ∧ (.broke ∈ deeds ∨ .stopped ∈ deeds) ∨
    ∃ met : Api.Bridge, Parting met.self met.announces (.frame f) deeds.lines deeds.announced ∧
      reply = deeds.lines.flatten

theorem Answer.append (h : Answer f reply deeds) (hmore : Silent more) :
    Answer f reply (deeds ++ more) where
  left := List.mem_append_left _ h.left
  told := by
    have hlines : Deeds.lines (deeds ++ more) = deeds.lines := by simp [hmore.lines]
    have hannounced : Deeds.announced (deeds ++ more) = deeds.announced := by simp [hmore.announced]
    rw [hlines, hannounced]
    rcases h.told with ⟨hnone, hqueue, hcut⟩ | htold
    · exact Or.inl ⟨hnone, hqueue, hcut.imp (List.mem_append_left _) (List.mem_append_left _)⟩
    · exact Or.inr htold

theorem Parting.queued
    (h : Parting self met (.frame (.announce ttl reserved datatype payload)) lines deeds.announced) :
    deeds.announced = [] ∨ Queued deeds ttl datatype payload := by
  generalize hannounced : deeds.announced = announced at h
  cases h with
  | announced _ _ hkind hpayload httl => exact Or.inr ⟨_, hannounced, hkind, hpayload, httl⟩
  | noRoom | reservedAnnounce => exact Or.inl rfl

-- A server that was cut short had said nothing.
theorem Answer.result_of_cut (h : Answer f reply deeds) (hlines : deeds.lines = []) :
    Ending.result (.closed reply) = .ok () := by
  have hsilent : reply = [] := by
    rcases h.told with ⟨hnone, _⟩ | ⟨_, _, hreply⟩
    · exact hnone
    · rw [hreply, hlines]
      rfl
  subst hsilent
  rfl

-- Silence from a server that was not cut short means that the data was queued.
theorem Answer.result (h : Answer (.announce ttl reserved datatype payload) reply deeds) :
    let result := Ending.result (.closed reply)
    (result = .ok () → Queued deeds ttl datatype payload ∨
      deeds.announced = [] ∧ (.broke ∈ deeds ∨ .stopped ∈ deeds)) ∧
    ∀ error, result = .error error → deeds.announced = [] := by
  intro result
  rcases h.told with ⟨rfl, hannounced, hcut⟩ | ⟨met, hparting, hreply⟩
  · exact ⟨fun _ => Or.inr ⟨hannounced, hcut⟩, fun _ _ => hannounced⟩
  · generalize hlines : deeds.lines = lines at hparting hreply
    generalize hannounced : deeds.announced = announced at hparting
    cases hparting with
    | announced hfree hroom hkind hpayload httl =>
        have hok : result = .ok () := by
          subst hreply
          rfl
        exact ⟨fun _ => Or.inl ⟨_, hannounced, hkind, hpayload, httl⟩,
          fun _ herror => nomatch hok.symm.trans herror⟩
    | noRoom =>
        have herror : result = .error (.rejected Api.Rejection.noReceiver.message) := by
          rw [← Api.Client.announced_noReceiver]
          simp [result, Ending.result, hreply]
        exact ⟨fun hok => (nomatch hok.symm.trans herror), fun _ _ => rfl⟩
    | reservedAnnounce =>
        have herror : result = .error (.rejected (Api.Rejection.reserved datatype).message) := by
          rw [← Api.Client.announced_reserved]
          simp [result, Ending.result, hreply]
        exact ⟨fun hok => (nomatch hok.symm.trans herror), fun _ _ => rfl⟩

end Answer

-- What a client has not handed to the network.
inductive Announcer.Keeps : Announcer → Bytes → Prop
  | sending (rest : Bytes) : Keeps (.sending rest) rest
  | waiting : Keeps .waiting []
  | closed (reply : Bytes) : Keeps (.returned (.closed reply)) []
  | gaveUp : Keeps (.returned .gaveUp) []
  | failed (error : NodeError) {rest : Bytes} (h : rest ≠ []) :
      Keeps (.returned (.failed error)) rest

namespace Exchange

variable {H : Digest} {name self : String} {settings : Settings}
  {announceQueue dispatchQueue noteQueue : Nat}
  {f : Frame} {bytes : Bytes} {deeds : Deeds} {x x' : Exchange} {event : Event} {events : Events}
  {hub hub' : Hub} {c : Client}

-- A node that has come to this, and what the connection has done.
def Reached (H : Digest) (self : String) (settings : Settings)
    (announceQueue dispatchQueue noteQueue : Nat)
    (name : String) (deeds : Deeds) (hub : Hub) : Prop :=
  ∃ events : Events,
    Run (Hub.Step H) (Hub.start self settings announceQueue dispatchQueue noteQueue) events hub ∧
    events.deeds name = deeds

section Reached

theorem Reached.client
    (h : Reached H self settings announceQueue dispatchQueue noteQueue name deeds hub) :
    (hub.clients name = none ∧ deeds = []) ∨
      ∃ c, hub.clients name = some c ∧ Run Client.Moves (.accepted name) deeds c := by
  obtain ⟨events, run, rfl⟩ := h
  exact client_of_new run rfl

theorem Reached.run
    (h : Reached H self settings announceQueue dispatchQueue noteQueue name deeds hub)
    (hc : hub.clients name = some c) : Run Client.Moves (.accepted name) deeds c := by
  rcases h.client with ⟨hnone, _⟩ | ⟨d, hd, hrun⟩
  · cases hnone.symm.trans hc
  · cases hd.symm.trans hc
    exact hrun

-- A connection that has left says nothing more.
theorem Reached.silent
    (h : Reached H self settings announceQueue dispatchQueue noteQueue name deeds hub)
    (hs : hub.Step H event hub') (hleft : .left ∈ deeds) : Silent (Events.deeds [event] name) := by
  rcases h.client with ⟨_, rfl⟩ | ⟨c, hc, hrun⟩
  · cases hleft
  · have htold := Client.told_of_run hrun
    have hclosed : c.connection.isOpen = false := by
      cases hopen : c.connection.isOpen with
      | false => rfl
      | true =>
          exact absurd ((htold.opened hopen).symm.trans (htold.left.mpr hleft)) Bool.false_ne_true
    obtain ⟨c', _, hmoves⟩ := hs.client hc
    exact (silent_of_closed hmoves hclosed).2

theorem Reached.silent_of_cut
    (h : Reached H self settings announceQueue dispatchQueue noteQueue name deeds hub)
    (hcut : .broke ∈ deeds ∨ .stopped ∈ deeds) : deeds.lines = [] ∧ deeds.announced = [] := by
  rcases h.client with ⟨_, rfl⟩ | ⟨c, _, hrun⟩
  · exact ⟨rfl, rfl⟩
  · obtain ⟨_, hlines, hannounced, _⟩ := Hub.silent_of_cut hrun hcut
    exact ⟨hlines, hannounced⟩

theorem Reached.announces_of_read {reading : Reading} {met : Api.Bridge} {turn : Api.Turn}
    (h : Reached H self settings announceQueue dispatchQueue noteQueue name deeds hub)
    (hread : .read reading met turn ∈ deeds) :
    turn.bridge.announces.items = met.announces.items ++
      Deed.announced (.read reading met turn) := by
  rcases h.client with ⟨_, rfl⟩ | ⟨c, _, hrun⟩
  · cases hread
  · obtain ⟨added, hadded⟩ := (fair_of_run hrun).announces reading met turn hread
    rw [Deed.announced, ← hadded, List.drop_left]

end Reached

-- Where the bytes of the frame are, what came back, and what the client makes of it.
structure Sound (f : Frame) (bytes : Bytes) (deeds : Deeds) (x : Exchange) : Prop where
  stream : ∃ rest, x.announcer.Keeps rest ∧ deeds.stream ++ x.up ++ rest = bytes
  down : x.down = deeds.reply
  ended : .ended ∈ deeds → ∃ ending, x.announcer = .returned ending
  answer : ∀ reply, x.announcer = .returned (.closed reply) → Answer f reply deeds

theorem Sound.isPrefix (h : Sound f bytes deeds x) : deeds.stream <+: bytes := by
  obtain ⟨rest, _, hbytes⟩ := h.stream
  rw [List.append_assoc] at hbytes
  exact hbytes ▸ List.prefix_append _ _

theorem Sound.of_sending (h : Sound f bytes deeds x) {rest : Bytes}
    (hsending : x.announcer = .sending rest) :
    deeds.stream ++ x.up ++ rest = bytes ∧ .ended ∉ deeds := by
  obtain ⟨kept, hkeeps, hbytes⟩ := h.stream
  rw [hsending] at hkeeps
  cases hkeeps
  refine ⟨hbytes, fun hended => ?_⟩
  obtain ⟨_, hreturned⟩ := h.ended hended
  cases hsending.symm.trans hreturned

theorem Sound.of_waiting (h : Sound f bytes deeds x) (hwaiting : x.announcer = .waiting) :
    deeds.stream ++ x.up = bytes ∧ .ended ∉ deeds := by
  obtain ⟨kept, hkeeps, hbytes⟩ := h.stream
  rw [hwaiting] at hkeeps
  cases hkeeps
  refine ⟨by rwa [List.append_nil] at hbytes, fun hended => ?_⟩
  obtain ⟨_, hreturned⟩ := h.ended hended
  cases hwaiting.symm.trans hreturned

theorem ended_of_run (run : Run Client.Moves (.accepted name) deeds c) (h : c.ended = true) :
    .ended ∈ deeds := by
  induction run with
  | refl => cases h
  | step _ hs ih =>
      obtain ⟨_, _, hs⟩ := hs
      cases hs with
      | finish => exact List.mem_append_right _ List.mem_cons_self
      | send bytes hmore =>
          obtain ⟨_, hgets⟩ := Client.gets_eq _ bytes
          rw [hgets] at h
          exact absurd (hmore.symm.trans h) Bool.false_ne_true
      | _ => exact List.mem_append_left _ (ih h)

-- A server that closed while the client waits has read the frame, or was cut short.
theorem Sound.answer_of_left (h : Sound f bytes deeds x) (hf : f.encode = .ok bytes)
    (hstops : (Reading.frame f).goesOn = false)
    (hreached : Reached H self settings announceQueue dispatchQueue noteQueue name deeds x.hub)
    (hwaiting : x.announcer = .waiting) (hc : x.hub.clients name = some c) (hleft : c.left = true) :
    Answer f x.down deeds := by
  have hrun := hreached.run hc
  have htold := Client.told_of_run hrun
  obtain ⟨hasked, hfate⟩ := fate_of_run hrun hf hstops h.isPrefix
  have hreply : x.down = deeds.lines.flatten := by
    obtain ⟨events, run, rfl⟩ := hreached
    exact h.down.trans (Deeds.reply_eq (written_of_asked_nil run hasked))
  refine ⟨htold.left.mp hleft, ?_⟩
  cases hfate with
  | unread hopen => exact absurd ((htold.opened hopen).symm.trans hleft) Bool.false_ne_true
  | cut _ hcut hlines hannounced => exact Or.inl ⟨by rw [hreply, hlines]; rfl, hannounced, hcut⟩
  | read _ _ hparting => exact Or.inr ⟨_, hparting, hreply⟩
  | ended _ hended =>
      exact absurd (ended_of_run hrun hended) (h.of_waiting hwaiting).2

-- A step of the client alone is no deed of its connection.
theorem Sound.quiet {announcer : Announcer} {up rest : Bytes} (h : Sound f bytes deeds x)
    (hkeeps : announcer.Keeps rest) (hbytes : deeds.stream ++ up ++ rest = bytes)
    (hended : .ended ∈ deeds → ∃ ending, announcer = .returned ending)
    (hanswer : ∀ reply, announcer = .returned (.closed reply) → Answer f reply deeds) :
    Sound f bytes (deeds ++ Events.deeds [.quiet] name) { x with announcer, up } := by
  rw [Events.deeds_quiet, List.append_nil]
  exact ⟨⟨rest, hkeeps, hbytes⟩, h.down, hended, hanswer⟩

-- A step of the node leaves the client as it is, and tells one that has its answer no more.
theorem Sound.served {up down : Bytes} {more : Deeds} (h : Sound f bytes deeds x)
    (hup : x.up = more.stream ++ up) (hdown : down = x.down ++ more.reply)
    (hended : .ended ∈ more → ∃ ending, x.announcer = .returned ending)
    (hsilent : .left ∈ deeds → Silent more) :
    Sound f bytes (deeds ++ more) { x with hub, up, down } where
  stream := by
    obtain ⟨kept, hkeeps, hbytes⟩ := h.stream
    refine ⟨kept, hkeeps, ?_⟩
    rw [← hbytes, hup, Deeds.stream_append, List.append_assoc deeds.stream]
  down := by rw [hdown, h.down, Deeds.reply_append]
  ended hmem := (List.mem_append.mp hmem).elim h.ended hended
  answer reply hreply := (h.answer reply hreply).append (hsilent (h.answer reply hreply).left)

theorem stream_of_not_sent (h : ∀ bytes, event ≠ .did name (.sent bytes)) :
    (Events.deeds [event] name).stream = [] := by
  apply List.flatMap_eq_nil_iff.mpr
  intro deed hdeed
  have hevent := List.mem_singleton.mp (Events.mem_deeds.mp hdeed)
  cases deed with
  | sent bytes => exact absurd hevent.symm (h bytes)
  | _ => rfl

-- The client's steps move bytes from what it keeps to what is on its way, the node's from
-- there to what has come.
theorem Sound.step (h : Sound f bytes deeds x) (hf : f.encode = .ok bytes)
    (hstops : (Reading.frame f).goesOn = false)
    (hreached : Reached H self settings announceQueue dispatchQueue noteQueue name deeds x.hub)
    (hs : Step H name x event x') : Sound f bytes (deeds ++ Events.deeds [event] name) x' := by
  cases hs with
  | write piece rest hsending =>
      obtain ⟨hbytes, hbusy⟩ := h.of_sending hsending
      refine h.quiet (.sending rest) ?_ (absurd · hbusy) fun _ hreply => by cases hreply
      rw [← hbytes]
      simp
  | sent hsending =>
      obtain ⟨hbytes, hbusy⟩ := h.of_sending hsending
      exact h.quiet .waiting hbytes (absurd · hbusy) fun _ hreply => by cases hreply
  | deliver piece rest hup hc hopen hs =>
      refine h.served ?_ ?_ (fun hmem => ?_) (hreached.silent hs)
      · simp [hup, Deeds.stream, Deed.bytes]
      · simp [Deeds.reply, Deed.reply, Deed.wrote?, Deed.line?]
      · simp at hmem
  | node hs hsent hended =>
      refine h.served ?_ rfl (fun hmem => ?_) (hreached.silent hs)
      · rw [stream_of_not_sent hsent, List.nil_append]
      · exact absurd (List.mem_singleton.mp (Events.mem_deeds.mp hmem)).symm hended
  | hear hwaiting hc hleft =>
      obtain ⟨hbytes, _⟩ := h.of_waiting hwaiting
      refine h.quiet (.closed _) (by rwa [List.append_nil]) (fun _ => ⟨_, rfl⟩)
        fun reply hreply => ?_
      cases hreply
      exact h.answer_of_left hf hstops hreached hwaiting hc hleft
  | giveUp hwaiting =>
      obtain ⟨hbytes, _⟩ := h.of_waiting hwaiting
      exact h.quiet .gaveUp (by rwa [List.append_nil]) (fun _ => ⟨_, rfl⟩) fun _ hreply => by
        cases hreply
  | fail fault hsending hrest =>
      obtain ⟨hbytes, _⟩ := h.of_sending hsending
      exact h.quiet (.failed _ hrest) hbytes (fun _ => ⟨_, rfl⟩) fun _ hreply => by cases hreply
  | reset fault hwaiting hup hclosed =>
      -- The bytes that were on their way are the client's again.
      obtain ⟨hbytes, _⟩ := h.of_waiting hwaiting
      exact h.quiet (.failed _ hup) (by rwa [List.append_nil]) (fun _ => ⟨_, rfl⟩) fun _ hreply =>
        by cases hreply
  | finish hreturned hup hs =>
      refine h.served ?_ ?_ (fun _ => ⟨_, hreturned⟩) (hreached.silent hs)
      · simp [Deeds.stream, Deed.bytes]
      · simp [Deeds.reply, Deed.reply, Deed.wrote?, Deed.line?]

-- Nothing is queued before all of the frame has come.
theorem Sound.announced_cases (h : Sound f bytes deeds x) (hf : f.encode = .ok bytes)
    (hstops : (Reading.frame f).goesOn = false)
    (hreached : Reached H self settings announceQueue dispatchQueue noteQueue name deeds x.hub) :
    deeds.announced = [] ∨ deeds.stream = bytes ∧
      ∃ met : Api.Bridge,
        Parting met.self met.announces (.frame f) deeds.lines deeds.announced := by
  rcases hreached.client with ⟨_, rfl⟩ | ⟨c, _, hrun⟩
  · exact Or.inl rfl
  · cases (fate_of_run hrun hf hstops h.isPrefix).2 with
    | unread _ _ hannounced | cut _ _ _ hannounced | ended _ _ hannounced => exact Or.inl hannounced
    | read _ hwhole hparting => exact Or.inr ⟨hwhole, _, hparting⟩

theorem Sound.announced_of_failed (h : Sound f bytes deeds x) (hf : f.encode = .ok bytes)
    (hstops : (Reading.frame f).goesOn = false)
    (hreached : Reached H self settings announceQueue dispatchQueue noteQueue name deeds x.hub)
    {error : NodeError}
    (hfailed : x.announcer = .returned (.failed error)) : deeds.announced = [] := by
  obtain ⟨rest, hkeeps, hbytes⟩ := h.stream
  rw [hfailed] at hkeeps
  cases hkeeps with
  | failed _ hrest =>
      rcases h.announced_cases hf hstops hreached with hnone | ⟨hwhole, _⟩
      · exact hnone
      · rw [← hwhole, List.append_assoc, List.append_right_eq_self, List.append_eq_nil_iff] at hbytes
        exact absurd hbytes.2 hrest

-- What a client may make of its result.
theorem Sound.consent {ttl : UInt8} {datatype : UInt16} {payload : Bytes} {ending : Ending}
    (h : Sound (.announce ttl 0 datatype payload) bytes deeds x)
    (hf : (Frame.announce ttl 0 datatype payload).encode = .ok bytes)
    (hreached : Reached H self settings announceQueue dispatchQueue noteQueue name deeds x.hub)
    (hreturned : x.announcer = .returned ending) :
    (ending.result = .ok () → Queued deeds ttl datatype payload ∨
      deeds.announced = [] ∧ (ending = .gaveUp ∨ .broke ∈ deeds ∨ .stopped ∈ deeds)) ∧
    ∀ error, ending.result = .error error → deeds.announced = [] := by
  cases ending with
  | closed reply =>
      obtain ⟨hok, herror⟩ := (h.answer reply hreturned).result
      exact ⟨fun hresult => (hok hresult).imp_right fun ⟨hnone, hcut⟩ => ⟨hnone, Or.inr hcut⟩, herror⟩
  | gaveUp =>
      refine ⟨fun _ => ?_, fun _ herror => (by cases herror)⟩
      rcases h.announced_cases hf rfl hreached with hnone | ⟨_, _, hparting⟩
      · exact Or.inr ⟨hnone, Or.inl rfl⟩
      · rcases hparting.queued with hnone | hqueued
        · exact Or.inr ⟨hnone, Or.inl rfl⟩
        · exact Or.inl hqueued
  | failed error =>
      exact ⟨fun hok => (by cases hok), fun _ _ => h.announced_of_failed hf rfl hreached hreturned⟩

theorem Reached.append
    (h : Reached H self settings announceQueue dispatchQueue noteQueue name deeds hub)
    {more : Events} (run : Run (Hub.Step H) hub more hub') :
    Reached H self settings announceQueue dispatchQueue noteQueue name
      (deeds ++ more.deeds name) hub' := by
  obtain ⟨events, hrun, rfl⟩ := h
  exact ⟨events ++ more, hrun.append run, Events.deeds_append _ _ _⟩

theorem sound_of_run (run : Run (Step H name) x events x')
    (hreached : Reached H self settings announceQueue dispatchQueue noteQueue name [] x.hub)
    (hf : f.encode = .ok bytes) (hstops : (Reading.frame f).goesOn = false)
    (h : Sound f bytes [] x) :
    Reached H self settings announceQueue dispatchQueue noteQueue name (events.deeds name) x'.hub ∧
      Sound f bytes (events.deeds name) x' := by
  induction run with
  | refl => exact ⟨hreached, h⟩
  | @step early x₁ x₂ event hrun hs ih =>
      obtain ⟨hearly, hsound⟩ := ih
      obtain ⟨events', hhub, hdeeds⟩ := hs.hub
      rw [Events.deeds_append, ← hdeeds]
      exact ⟨hearly.append hhub, hdeeds ▸ hsound.step hf hstops hearly hs⟩

-- The data is on its way, or it cannot be sent and nothing ever is.
theorem sound_start (h : Hub) (ttl : UInt8) (datatype : UInt16) (payload : Bytes) :
    ∃ f bytes, f.encode = .ok bytes ∧ (Reading.frame f).goesOn = false ∧
      Sound f bytes [] (start h ttl datatype payload) ∧ (start h ttl datatype payload).hub = h ∧
      (f = .announce ttl 0 datatype payload ∨
        ∃ error, (start h ttl datatype payload).announcer = .returned (.failed error)) := by
  unfold start
  cases hencode : (Frame.announce ttl 0 datatype payload).encode with
  | ok bytes =>
      have hbytes : Api.Client.announceBytes ttl datatype payload = .ok bytes := by
        rw [Api.Client.announceBytes, hencode]
        rfl
      rw [hbytes]
      exact ⟨_, bytes, hencode, rfl, ⟨⟨bytes, .sending bytes, rfl⟩, rfl, nofun, nofun⟩,
        rfl, Or.inl rfl⟩
  | error error =>
      have hbytes : Api.Client.announceBytes ttl datatype payload = .error (.wire error) := by
        rw [Api.Client.announceBytes, hencode]
        rfl
      rw [hbytes]
      have hempty : (Frame.announce 0 0 0 []).encode = .ok [0, 8, 1, 244, 0, 0, 0, 0] := rfl
      exact ⟨_, _, hempty, rfl, ⟨⟨_, .failed _ (by simp), rfl⟩, rfl, nofun, nofun⟩, rfl,
        Or.inr ⟨_, rfl⟩⟩

end Exchange

-- A client that hears its server close in silence is right to take its data for queued
-- unless the server was cut short, and one that is told of an error has left the queue as
-- it was. A server that is cut short queues nothing, and its client takes it for success.
theorem silence_is_consent_unless_cut {H : Digest} {self : String} {settings : Settings}
    {announceQueue dispatchQueue noteQueue : Nat} {before : Events} {h : Hub} {name : String}
    (hrun : Run (Step H) (start self settings announceQueue dispatchQueue noteQueue) before h)
    (hnew : h.clients name = none) (ttl : UInt8) (datatype : UInt16) (payload : Bytes)
    {events : Events} {x : Exchange}
    (run : Run (Exchange.Step H name) (.start h ttl datatype payload) events x) {ending : Ending}
    (hreturned : x.announcer = .returned ending) :
    let deeds := events.deeds name
    let cut := .broke ∈ deeds ∨ .stopped ∈ deeds
    (ending.result = .ok () → Queued deeds ttl datatype payload ∨
      deeds.announced = [] ∧ (ending = .gaveUp ∨ cut)) ∧
    (∀ error, ending.result = .error error → deeds.announced = []) ∧
    (cut → deeds.announced = [] ∧ ∀ reply, ending = .closed reply → ending.result = .ok ()) ∧
    ∀ reading met turn, .read reading met turn ∈ deeds →
      turn.bridge.announces.items = met.announces.items ++
        Deed.announced (.read reading met turn) := by
  intro deeds cut
  have hdeeds : before.deeds name = [] := by
    rcases client_of_new hrun rfl with ⟨_, hnone⟩ | ⟨c, hc, _⟩
    · exact hnone
    · cases hnew.symm.trans hc
  obtain ⟨f, bytes, hf, hstops, hstart, hhub, hkind⟩ := Exchange.sound_start h ttl datatype payload
  have hbefore : Exchange.Reached H self settings announceQueue dispatchQueue noteQueue name []
      (Exchange.start h ttl datatype payload).hub := ⟨before, hhub.symm ▸ hrun, hdeeds⟩
  obtain ⟨hreached, hsound⟩ := Exchange.sound_of_run run hbefore hf hstops hstart
  have hcut (h : cut) : deeds.announced = [] ∧ ∀ reply, ending = .closed reply →
      ending.result = .ok () := by
    obtain ⟨hlines, hannounced⟩ := hreached.silent_of_cut h
    refine ⟨hannounced, ?_⟩
    rintro reply rfl
    exact (hsound.answer reply hreturned).result_of_cut hlines
  have hreads {reading met turn} (hread : .read reading met turn ∈ deeds) :=
    hreached.announces_of_read hread
  rcases hkind with rfl | ⟨error, hfailed⟩
  · obtain ⟨hok, herror⟩ := hsound.consent hf hreached hreturned
    exact ⟨hok, herror, hcut, fun _ _ _ => hreads⟩
  · cases hreturned.symm.trans (Exchange.returned_of_run run hfailed)
    have hnone := hsound.announced_of_failed hf hstops hreached hreturned
    exact ⟨fun hok => (by cases hok), fun _ _ => hnone, hcut, fun _ _ _ => hreads⟩

-- A client that sends its frame in one piece, and one whose server stops before the last
-- byte has come.
section Pair

-- A node that has room for one announcement.
def room : Hub :=
  start "a" {} 1 1 1

def frame : Bytes :=
  [0, 9, 1, 244, 3, 0, 0, 7, 5]

theorem encode_frame : (Frame.announce 3 0 7 [5]).encode = .ok frame := rfl

theorem announced_and_told : ∃ (events : Events) (x : Exchange),
    Run (Exchange.Step (.ofFunction id) "c") (.start room 3 7 [5]) events x ∧
      x.announcer = .returned (.closed []) ∧ Ending.result (.closed []) = .ok () ∧
      Queued (events.deeds "c") 3 7 [5] := by
  let H : Digest := .ofFunction id
  let c₁ := (Client.accepted "c").gets frame
  let turn := (Reading.frame (.announce 3 0 7 [5])).turn 0 c₁.connection room.bridge
  let c₂ := c₁.after turn []
  let h₁ := room.put "c" (.accepted "c")
  let h₂ := { h₁ with bridge := room.bridge }.put "c" c₁
  let h₃ := { h₂ with bridge := turn.bridge }.put "c" c₂
  have haccept : Step H room .quiet h₁ := .accept "c" rfl
  have hsent : Step H h₁ (.did "c" (.sent frame)) h₂ := .did rfl (.send frame rfl)
  have hread : Step H h₂ (.did "c" (.read (.frame (.announce 3 0 7 [5])) room.bridge turn)) h₃ :=
    .did rfl (.read 0 rfl rfl (next?_of_frame encode_frame rfl) rfl)
  have hleave : Step H h₃ (.did "c" .left) _ := .did rfl (.leave rfl rfl)
  have hstart : Run (Exchange.Step H "c") (.start room 3 7 [5]) [] (.start room 3 7 [5]) := .refl
  have hwaits := (hstart.step (.write frame [] rfl)).step (.sent rfl)
  have hserved :=
    ((hwaits.step (.node haccept nofun nofun)).step (.deliver frame [] rfl rfl rfl hsent)).step
      (.node hread nofun nofun)
  have hheard := (hserved.step (.node hleave nofun nofun)).step (.hear rfl rfl rfl)
  refine ⟨_, _, hheard, rfl, rfl, ?_⟩
  rcases (silence_is_consent_unless_cut .refl rfl 3 7 [5] hheard rfl).1 rfl with
    hqueued | ⟨hnone, _⟩
  · exact hqueued
  · cases hnone

theorem told_of_data_that_was_cut_off : ∃ (events : Events) (x : Exchange),
    Run (Exchange.Step (.ofFunction id) "c") (.start room 3 7 [5]) events x ∧
      x.announcer = .returned (.closed []) ∧ Ending.result (.closed []) = .ok () ∧
      ¬Queued (events.deeds "c") 3 7 [5] ∧ (events.deeds "c").announced = [] ∧
      x.hub.bridge.announces.hasRoom = true := by
  let H : Digest := .ofFunction id
  let c₁ := (Client.accepted "c").gets (frame.take 8)
  let h₁ := room.put "c" (.accepted "c")
  let h₂ := { h₁ with bridge := room.bridge }.put "c" c₁
  let h₃ := { h₂ with bridge := room.bridge }.put "c" c₁.closed
  have haccept : Step H room .quiet h₁ := .accept "c" rfl
  have hsent : Step H h₁ (.did "c" (.sent (frame.take 8))) h₂ := .did rfl (.send _ rfl)
  have hstop : Step H h₂ (.did "c" .stopped) h₃ := .did rfl (.stop rfl rfl)
  have hleave : Step H h₃ (.did "c" .left) _ := .did rfl (.leave rfl rfl)
  have hstart : Run (Exchange.Step H "c") (.start room 3 7 [5]) [] (.start room 3 7 [5]) := .refl
  have hsends :=
    (((hstart.step (.write (frame.take 8) [5] rfl)).step (.node haccept nofun nofun)).step
      (.deliver (frame.take 8) [] rfl rfl rfl hsent)).step (.node hstop nofun nofun)
  have hheard :=
    (((hsends.step (.write [5] [] rfl)).step (.sent rfl)).step (.node hleave nofun nofun)).step
      (.hear rfl rfl rfl)
  refine ⟨_, _, hheard, rfl, rfl, ?_, rfl, rfl⟩
  rintro ⟨m, hqueued, _⟩
  cases hqueued

end Pair

end Rumor.Hub
