import Rumor.Proofs.Api.Connection
import Rumor.Proofs.Calls.AtMostOnce
import Rumor.Proofs.Interest
import Rumor.Proofs.Mailboxes

-- The calls to an engine, the task that forwards its notes, and the connections of
-- applications, side by side. Each goes forward in steps that touch what they share
-- once, and the others may come in before its next.
namespace Rumor

namespace Hub

-- What stands next in what a client sent.
inductive Reading
  | frame (f : Frame)
  | fault (error : WireError)
  | ended
deriving DecidableEq

-- What a connection does about it.
def Reading.turn (fresh : MessageId) (c : Api.Connection) (b : Api.Bridge) : Reading → Api.Turn
  | .frame f => c.onFrame fresh f b
  | .fault error => ⟨.reply (.wire error), c, b⟩
  | .ended => ⟨.close, c, b⟩

-- A connection, whether its client sends no more, the note that it took from its
-- queue and writes, and whether it has dropped its subscription.
structure Client where
  connection : Api.Connection
  ended : Bool
  writing : Option Note
  left : Bool

-- What a connection and its client do.
inductive Deed
  | sent (bytes : Bytes)
  | ended
  | read (reading : Reading) (met : Api.Bridge) (turn : Api.Turn)
  | picked (note : Note)
  | wrote (note : Note) (bytes : Bytes)
  | broke
  | stopped
  | left
  | dropped

namespace Client

def accepted (name : String) : Client :=
  ⟨.start name, false, none, false⟩

-- Bytes that come after the server closed are not looked at.
def gets (c : Client) (bytes : Bytes) : Client :=
  if c.connection.isOpen then
    { c with connection := { c.connection with buffer := c.connection.buffer ++ bytes } }
  else c

-- What is there to be read, and what is left behind it.
def next? (c : Client) : Option (Reading × Bytes) :=
  match
    if c.ended then Frame.lastFront c.connection.buffer
    else some (Frame.front c.connection.buffer) with
  | some (.frame f rest) => some (.frame f, rest)
  | some (.fault error rest) => some (.fault error, rest)
  | some .incomplete => none
  | none => some (.ended, [])

def after (c : Client) (turn : Api.Turn) (rest : Bytes) : Client :=
  { c with connection := { turn.connection with buffer := rest, isOpen := turn.next = .go } }

def closed (c : Client) : Client :=
  { c with connection := { c.connection with isOpen := false }, writing := none }

inductive Step : Client → Api.Bridge → Deed → Client → Api.Bridge → Prop
  | send {c : Client} {b : Api.Bridge} (bytes : Bytes) (h : c.ended = false) :
      Step c b (.sent bytes) (c.gets bytes) b
  | finish {c : Client} {b : Api.Bridge} : Step c b .ended { c with ended := true } b
  | read {c : Client} {b : Api.Bridge} {reading : Reading} {rest : Bytes} {turn : Api.Turn}
      (fresh : MessageId) (hopen : c.connection.isOpen = true) (hidle : c.writing = none)
      (hnext : c.next? = some (reading, rest)) (hturn : reading.turn fresh c.connection b = turn) :
      Step c b (.read reading b turn) (c.after turn rest) turn.bridge
  | pick {c : Client} {b : Api.Bridge} {note : Note} {q : Queue Note}
      (hopen : c.connection.isOpen = true) (hidle : c.writing = none)
      (htake : (b.boxes.get? c.connection.name).bind Queue.take? = some (note, q)) :
      Step c b (.picked note) { c with writing := some note }
        { b with boxes := b.boxes.set c.connection.name q }
  | write {c : Client} {b : Api.Bridge} {note : Note} {bytes : Bytes}
      (hwriting : c.writing = some note) (hfits : (Api.noteFrame note).encode = .ok bytes) :
      Step c b (.wrote note bytes) { c with writing := none } b
  -- The client is gone, or the note fits no frame.
  | lose {c : Client} {b : Api.Bridge} (hopen : c.connection.isOpen = true) :
      Step c b .broke c.closed b
  | stop {c : Client} {b : Api.Bridge} (hopen : c.connection.isOpen = true)
      (hidle : c.writing = none) : Step c b .stopped c.closed b
  | leave {c : Client} {b : Api.Bridge} (hclosed : c.connection.isOpen = false)
      (hleft : c.left = false) :
      Step c b .left { c with left := true } { b with
        interest :=
          if c.connection.subscribed then (b.interest.unsubscribe c.connection.name).2
          else b.interest }
  -- The queue goes with the connection, a little later than the subscription.
  | drop {c : Client} {b : Api.Bridge} (hleft : c.left = true) :
      Step c b .dropped
        { c with connection := { c.connection with buffer := [], subscribed := false } }
        { b with
          boxes := if c.connection.subscribed then b.boxes.erase c.connection.name else b.boxes }

end Client

-- What the task that forwards notes does next.
inductive Dispatcher
  | idle
  | holding (note : Note)
  | sending (note : Note) (names : List String)
  | halted

namespace Dispatcher

-- The note that it has taken and not looked up.
def held : Dispatcher → List Note
  | .holding note => [note]
  | _ => []

-- What it has yet to offer to `name`.
def due (name : String) : Dispatcher → List Note
  | .sending note names => List.replicate (names.count name) note
  | _ => []

end Dispatcher

-- What it did. An offer tells the queue that it met and the queue that it left.
inductive Work
  | took (note : Note)
  | looked (note : Note) (names : List String)
  | offered (name : String) (note : Note) (met made : Option (Queue Note))
  | forwarded (note : Note)
  | halted

-- An act of the engine tells the note that entered its queue, if one did.
inductive Event
  | quiet
  | turned (k : Nat) (acts : List Calls.Act) (entered : Option Note)
  | worked (work : Work)
  | did (name : String) (deed : Deed)

end Hub

structure Hub where
  engine : Engine
  calls : List Calls.Call
  bridge : Api.Bridge
  dispatcher : Hub.Dispatcher
  clients : String → Option Hub.Client

namespace Hub

def start (self : String) (settings : Settings) (announceQueue dispatchQueue noteQueue : Nat) :
    Hub :=
  ⟨.start self settings (.empty dispatchQueue), [], .start self announceQueue noteQueue, .idle,
    fun _ => none⟩

-- The engine sees the interest map of the connections.
def shared (h : Hub) : Engine :=
  { h.engine with interest := h.bridge.interest }

def put (h : Hub) (name : String) (c : Client) : Hub :=
  { h with clients := fun other => if other = name then some c else h.clients other }

-- The note that enters the queue in a call's turn.
def enters? (notes : Queue Note) : Calls.Stage → Option Note
  | .noting note _ _ => if notes.hasRoom then some note else none
  | _ => none

-- No two connections have the same name.
inductive Step (H : Digest) : Hub → Event → Hub → Prop
  | call {h : Hub} (draw : Draw) (stage : Calls.Stage) (hstage : stage.Begins) :
      Step H h .quiet { h with calls := h.calls ++ [⟨draw, stage⟩] }
  | turn {h : Hub} {call : Calls.Call} {turn : Calls.Turn} (k : Nat) (hk : h.calls[k]? = some call)
      (hturn : call.stage.turn H call.draw h.shared = turn) :
      Step H h (.turned k turn.acts (enters? h.engine.notes call.stage))
        { h with engine := turn.engine, calls := h.calls.set k ⟨call.draw, turn.stage⟩ }
  -- A registry tells of peers.
  | peers {h : Hub} (peers : Peers) (hself : peers.self = h.engine.self) :
      Step H h .quiet { h with engine := { h.engine with peers } }
  -- The messages that were announced are taken to be spread, or nobody takes them any more.
  | announces {h : Hub} (announces : Queue Message) :
      Step H h .quiet { h with bridge := { h.bridge with announces } }
  | take {h : Hub} {note : Note} {notes : Queue Note} (hidle : h.dispatcher = .idle)
      (htake : h.engine.notes.take? = some (note, notes)) :
      Step H h (.worked (.took note))
        { h with engine := { h.engine with notes }, dispatcher := .holding note }
  | look {h : Hub} {note : Note} {names : List String} (hholding : h.dispatcher = .holding note)
      (hnames : names.Perm (h.bridge.interest.subscribers note.datatype)) :
      Step H h (.worked (.looked note names)) { h with dispatcher := .sending note names }
  | offer {h : Hub} {note : Note} {name : String} {names : List String}
      (hsending : h.dispatcher = .sending note (name :: names)) :
      Step H h
        (.worked (.offered name note (h.bridge.boxes.get? name)
          ((h.bridge.boxes.offer name note).2.get? name)))
        { h with
          bridge := { h.bridge with boxes := (h.bridge.boxes.offer name note).2 }
          dispatcher := .sending note names }
  | forward {h : Hub} {note : Note} (hsending : h.dispatcher = .sending note []) :
      Step H h (.worked (.forwarded note)) { h with dispatcher := .idle }
  | halt {h : Hub} (hidle : h.dispatcher = .idle) :
      Step H h (.worked .halted) { h with
        engine := { h.engine with notes := h.engine.notes.close }
        dispatcher := .halted }
  | accept {h : Hub} (name : String) (hnew : h.clients name = none) :
      Step H h .quiet (h.put name (.accepted name))
  | did {h : Hub} {name : String} {c c' : Client} {b : Api.Bridge} {deed : Deed}
      (hname : h.clients name = some c) (hstep : c.Step h.bridge deed c' b) :
      Step H h (.did name deed) ({ h with bridge := b }.put name c')

-- The datatype that a connection subscribes to on this.
def Reading.asks? : Reading → Option UInt16
  | .frame (.notify _ datatype) => if Kind.reserved datatype then none else some datatype
  | _ => none

namespace Deed

def bytes : Deed → Bytes
  | .sent bytes => bytes
  | _ => []

def reading? : Deed → Option Reading
  | .read reading .. => some reading
  | _ => none

def asks? (deed : Deed) : Option UInt16 :=
  deed.reading?.bind Reading.asks?

-- The reason that the connection gave.
def line? : Deed → Option Bytes
  | .read _ _ ⟨.reply r, _, _⟩ => some r.line
  | _ => none

-- What it put at the end of the queue of announced messages.
def announced : Deed → List Message
  | .read _ met turn => turn.bridge.announces.items.drop met.announces.items.length
  | _ => []

def wrote? : Deed → Option (Note × Bytes)
  | .wrote note bytes => some (note, bytes)
  | _ => none

end Deed

-- What one connection did, in order.
abbrev Deeds := List Deed

namespace Deeds

-- All that the client sent.
def stream (deeds : Deeds) : Bytes :=
  deeds.flatMap Deed.bytes

def readings (deeds : Deeds) : List Reading :=
  deeds.filterMap Deed.reading?

def asked (deeds : Deeds) : List UInt16 :=
  deeds.filterMap Deed.asks?

def lines (deeds : Deeds) : List Bytes :=
  deeds.filterMap Deed.line?

def announced (deeds : Deeds) : List Message :=
  deeds.flatMap Deed.announced

def written (deeds : Deeds) : List (Note × Bytes) :=
  deeds.filterMap Deed.wrote?

def noted (deeds : Deeds) : List Note :=
  deeds.written.map (·.1)

variable (a b : Deeds)

@[simp] theorem stream_append : stream (a ++ b) = stream a ++ stream b :=
  List.flatMap_append

@[simp] theorem readings_append : readings (a ++ b) = readings a ++ readings b :=
  List.filterMap_append

@[simp] theorem asked_append : asked (a ++ b) = asked a ++ asked b :=
  List.filterMap_append

@[simp] theorem asked_singleton (deed : Deed) : asked [deed] = deed.asks?.toList := by
  cases h : deed.asks? <;> simp [asked, h]

theorem asked_eq (deeds : Deeds) : deeds.asked = deeds.readings.filterMap Reading.asks? := by
  rw [readings, List.filterMap_filterMap]
  rfl

@[simp] theorem lines_append : lines (a ++ b) = lines a ++ lines b :=
  List.filterMap_append

@[simp] theorem announced_append : announced (a ++ b) = announced a ++ announced b :=
  List.flatMap_append

@[simp] theorem written_append : written (a ++ b) = written a ++ written b :=
  List.filterMap_append

@[simp] theorem noted_nil : noted [] = [] := rfl

@[simp] theorem noted_append : noted (a ++ b) = noted a ++ noted b := by
  simp [noted]

end Deeds

namespace Work

def looked? : Work → Option Note
  | .looked note _ => some note
  | _ => none

def offers? (name : String) : Work → Option Note
  | .offered other note _ _ => if other = name then some note else none
  | _ => none

end Work

namespace Event

def deed? (name : String) : Event → Option Deed
  | .did other deed => if other = name then some deed else none
  | _ => none

def work? : Event → Option Work
  | .worked work => some work
  | _ => none

def acts : Event → Calls.Trace
  | .turned k acts _ => acts.map (k, ·)
  | _ => []

def entered? : Event → Option (Nat × Note)
  | .turned k _ (some note) => some (k, note)
  | _ => none

end Event

abbrev Events := List Event

namespace Events

def deeds (events : Events) (name : String) : Deeds :=
  events.filterMap (Event.deed? name)

def works (events : Events) : List Work :=
  events.filterMap Event.work?

def trace (events : Events) : Calls.Trace :=
  events.flatMap Event.acts

-- The notes that entered the engine's queue, each with the call that put it there.
def entries (events : Events) : List (Nat × Note) :=
  events.filterMap Event.entered?

-- The notes whose subscribers were looked up.
def looked (events : Events) : List Note :=
  events.works.filterMap Work.looked?

def offered (events : Events) (name : String) : List Note :=
  events.works.filterMap (Work.offers? name)

@[simp] theorem deeds_quiet (name : String) : deeds [.quiet] name = [] := rfl

@[simp] theorem deeds_turned (k : Nat) (acts : List Calls.Act) (entered : Option Note)
    (name : String) : deeds [.turned k acts entered] name = [] := rfl

@[simp] theorem deeds_worked (work : Work) (name : String) : deeds [.worked work] name = [] := rfl

@[simp] theorem deeds_did (other : String) (deed : Deed) (name : String) :
    deeds [.did other deed] name = if other = name then [deed] else [] := by
  by_cases h : other = name <;> simp [deeds, Event.deed?, h]

@[simp] theorem entries_quiet : entries [.quiet] = [] := rfl

@[simp] theorem entries_turned (k : Nat) (acts : List Calls.Act) (entered : Option Note) :
    entries [.turned k acts entered] = entered.toList.map (k, ·) := by
  cases entered <;> rfl

@[simp] theorem entries_worked (work : Work) : entries [.worked work] = [] := rfl

@[simp] theorem entries_did (other : String) (deed : Deed) : entries [.did other deed] = [] := rfl

@[simp] theorem looked_quiet : looked [.quiet] = [] := rfl

@[simp] theorem looked_turned (k : Nat) (acts : List Calls.Act) (entered : Option Note) :
    looked [.turned k acts entered] = [] := rfl

@[simp] theorem looked_worked (work : Work) : looked [.worked work] = work.looked?.toList := by
  cases work <;> rfl

@[simp] theorem looked_did (other : String) (deed : Deed) : looked [.did other deed] = [] := rfl

@[simp] theorem offered_quiet (name : String) : offered [.quiet] name = [] := rfl

@[simp] theorem offered_turned (k : Nat) (acts : List Calls.Act) (entered : Option Note)
    (name : String) : offered [.turned k acts entered] name = [] := rfl

@[simp] theorem offered_worked (work : Work) (name : String) :
    offered [.worked work] name = (work.offers? name).toList := by
  cases h : work.offers? name <;> simp [offered, works, Event.work?, h]

@[simp] theorem offered_did (other : String) (deed : Deed) (name : String) :
    offered [.did other deed] name = [] := rfl

theorem deeds_map_did (deeds : Deeds) (name : String) :
    Events.deeds (deeds.map (.did name)) name = deeds := by
  rw [Events.deeds, List.filterMap_map]
  simp [Function.comp_def, Event.deed?]

theorem mem_deeds {events : Events} {name : String} {deed : Deed} :
    deed ∈ events.deeds name ↔ .did name deed ∈ events := by
  constructor
  · intro h
    obtain ⟨event, hevent, hof⟩ := List.mem_filterMap.mp h
    cases event with
    | did other deed' =>
        simp only [Event.deed?, Option.ite_none_right_eq_some, Option.some.injEq] at hof
        exact hof.1 ▸ hof.2 ▸ hevent
    | _ => cases hof
  · exact fun h => List.mem_filterMap.mpr ⟨_, h, by simp [Event.deed?]⟩

variable (a b : Events)

@[simp] theorem deeds_append (name : String) : deeds (a ++ b) name = deeds a name ++ deeds b name :=
  List.filterMap_append

@[simp] theorem works_append : works (a ++ b) = works a ++ works b :=
  List.filterMap_append

@[simp] theorem trace_append : trace (a ++ b) = trace a ++ trace b :=
  List.flatMap_append

@[simp] theorem entries_append : entries (a ++ b) = entries a ++ entries b :=
  List.filterMap_append

@[simp] theorem looked_append : looked (a ++ b) = looked a ++ looked b := by
  simp [looked]

@[simp] theorem offered_append (name : String) :
    offered (a ++ b) name = offered a name ++ offered b name := by
  simp [offered]

end Events

@[simp] theorem put_clients (h : Hub) (name other : String) (c : Client) :
    (h.put name c).clients other = if other = name then some c else h.clients other := rfl

@[simp] theorem put_engine (h : Hub) (name : String) (c : Client) :
    (h.put name c).engine = h.engine := rfl

@[simp] theorem put_calls (h : Hub) (name : String) (c : Client) : (h.put name c).calls = h.calls :=
  rfl

@[simp] theorem put_dispatcher (h : Hub) (name : String) (c : Client) :
    (h.put name c).dispatcher = h.dispatcher := rfl

@[simp] theorem put_bridge (h : Hub) (name : String) (c : Client) :
    (h.put name c).bridge = h.bridge := rfl

theorem put_self {h : Hub} {name : String} {c : Client} (hc : h.clients name = some c) :
    h.put name c = h := by
  have hclients : (h.put name c).clients = h.clients := by
    funext other
    rw [put_clients]
    split
    · rename_i hsame
      rw [hsame, hc]
    · rfl
  exact congrArg (fun clients => { h with clients }) hclients

theorem put_put (h : Hub) (name : String) (c c' : Client) (b b' : Api.Bridge) :
    { ({ h with bridge := b }.put name c) with bridge := b' }.put name c' =
      { h with bridge := b' }.put name c' := by
  simp only [put, Hub.mk.injEq, true_and]
  funext other
  split <;> rfl

-- What a connection does, whatever the others do to the bridge in between.
def Client.Moves (c : Client) (deed : Deed) (c' : Client) : Prop :=
  ∃ b b', c.Step b deed c' b'

section Parts

variable {H : Digest} {h h' : Hub} {event : Event} {events : Events} {name self : String}
  {c : Client} {settings : Settings} {announceQueue dispatchQueue noteQueue : Nat}

-- A connection stays, and others leave it as it is.
theorem Step.client (hs : Step H h event h') (hc : h.clients name = some c) :
    ∃ c', h'.clients name = some c' ∧ Run Client.Moves c (Events.deeds [event] name) c' := by
  cases hs with
  | @did other d d' b deed hname hstep =>
      by_cases hsame : name = other
      · subst hsame
        obtain rfl : c = d := Option.some.inj (hc.symm.trans hname)
        refine ⟨d', by simp, ?_⟩
        have hmoves : Client.Moves c deed d' := ⟨_, _, hstep⟩
        simpa using Run.single hmoves
      · refine ⟨c, by simpa [hsame] using hc, ?_⟩
        simpa [Ne.symm hsame] using Run.refl
  | accept other hnew =>
      have hsame : name ≠ other := fun he => by simp [he, hnew] at hc
      exact ⟨c, by simpa [hsame] using hc, .refl⟩
  | _ => exact ⟨c, hc, .refl⟩

theorem Step.new (hs : Step H h event h') (hnew : h.clients name = none) :
    Events.deeds [event] name = [] ∧
    (h'.clients name = none ∨ h'.clients name = some (.accepted name)) := by
  cases hs with
  | @did other d d' b deed hname hstep =>
      have hsame : name ≠ other := fun he => by simp [← he, hnew] at hname
      exact ⟨by simp [Ne.symm hsame], Or.inl (by simpa [hsame] using hnew)⟩
  | accept other _ =>
      refine ⟨rfl, ?_⟩
      by_cases hsame : name = other
      · exact Or.inr (by simp [hsame])
      · exact Or.inl (by simpa [hsame] using hnew)
  | _ => exact ⟨rfl, Or.inl hnew⟩

theorem client_of_new (run : Run (Step H) h events h') (hnew : h.clients name = none) :
    (h'.clients name = none ∧ events.deeds name = []) ∨
      ∃ c, h'.clients name = some c ∧ Run Client.Moves (.accepted name) (events.deeds name) c := by
  induction run with
  | refl => exact Or.inl ⟨hnew, rfl⟩
  | step _ hs ih =>
      rw [Events.deeds_append]
      rcases ih with ⟨hnone, hdeeds⟩ | ⟨c, hc, hrun⟩
      · obtain ⟨hdeed, hnone' | hc'⟩ := hs.new hnone
        · exact Or.inl ⟨hnone', by rw [hdeeds, hdeed]; rfl⟩
        · exact Or.inr ⟨_, hc', by rw [hdeeds, hdeed]; exact .refl⟩
      · obtain ⟨c', hc', hstep⟩ := hs.client hc
        exact Or.inr ⟨c', hc', hrun.append hstep⟩

-- What the task that forwards notes does, whatever the others do.
inductive Dispatcher.Step : Dispatcher → Work → Dispatcher → Prop
  | take (note : Note) : Dispatcher.Step .idle (.took note) (.holding note)
  | look (note : Note) (names : List String) :
      Dispatcher.Step (.holding note) (.looked note names) (.sending note names)
  | offer (note : Note) (name : String) (names : List String) (met : Option (Queue Note)) :
      Dispatcher.Step (.sending note (name :: names))
        (.offered name note met (met.map fun q => (q.offer note).2))
        (.sending note names)
  | forward (note : Note) : Dispatcher.Step (.sending note []) (.forwarded note) .idle
  | halt : Dispatcher.Step .idle .halted .halted

theorem Step.dispatcher (hs : Step H h event h') :
    Run Dispatcher.Step h.dispatcher (Events.works [event]) h'.dispatcher := by
  cases hs with
  | take hidle _ => exact hidle ▸ Run.single (.take _)
  | look hholding _ => exact hholding ▸ Run.single (.look _ _)
  | offer hsending =>
      rw [hsending, Mailboxes.get?_offer, if_pos rfl]
      exact Run.single (.offer _ _ _ _)
  | forward hsending => exact hsending ▸ Run.single (.forward _)
  | halt hidle => exact hidle ▸ Run.single .halt
  | _ => exact .refl

theorem dispatcher_of_run (run : Run (Step H) h events h') :
    Run Dispatcher.Step h.dispatcher events.works h'.dispatcher := by
  induction run with
  | refl => exact .refl
  | step _ hs ih => simpa using ih.append hs.dispatcher

-- Seen from the engine, its calls run side by side while others come and go.
theorem Step.pool (hs : Step H h event h') : ∃ labels,
    Run (Calls.Pool.Step H) ⟨h.shared, h.calls⟩ labels ⟨h'.shared, h'.calls⟩ ∧
    labels.flatten = event.acts := by
  cases hs with
  | call draw stage hstage => exact ⟨_, .single (.call draw stage hstage), rfl⟩
  | @turn call turn k hk hturn =>
      refine ⟨_, (Run.single (.turn k hk hturn)).step
        (.meanwhile { turn.engine with interest := h.bridge.interest } rfl rfl rfl), ?_⟩
      simp [Event.acts]
  | peers peers hself => exact ⟨_, .single (.meanwhile _ hself rfl rfl), rfl⟩
  | _ => exact ⟨_, .single (.meanwhile _ rfl rfl rfl), rfl⟩

theorem pool_of_run (run : Run (Step H) h events h') : ∃ labels,
    Run (Calls.Pool.Step H) ⟨h.shared, h.calls⟩ labels ⟨h'.shared, h'.calls⟩ ∧
    labels.flatten = events.trace := by
  induction run with
  | refl => exact ⟨[], .refl, rfl⟩
  | step _ hs ih =>
      obtain ⟨labels, hrun, hflat⟩ := ih
      obtain ⟨labels', hstep, hflat'⟩ := hs.pool
      exact ⟨labels ++ labels', hrun.append hstep, by simp [hflat, hflat', Events.trace]⟩

theorem Client.gets_of_open (hopen : c.connection.isOpen = true) (bytes : Bytes) :
    c.gets bytes =
      { c with connection := { c.connection with buffer := c.connection.buffer ++ bytes } } :=
  if_pos hopen

theorem Client.gets_of_closed (hclosed : c.connection.isOpen = false) (bytes : Bytes) :
    c.gets bytes = c :=
  if_neg (by simp [hclosed])

-- What comes in touches nothing but the buffer.
theorem Client.gets_eq (c : Client) (bytes : Bytes) :
    ∃ buffer, c.gets bytes = { c with connection := { c.connection with buffer } } := by
  cases hopen : c.connection.isOpen with
  | true => exact ⟨_, Client.gets_of_open hopen bytes⟩
  | false => exact ⟨_, Client.gets_of_closed hopen bytes⟩

section Interest

variable {reading : Reading} {fresh : MessageId} {connection : Api.Connection} {b b' : Api.Bridge}
  {datatype : UInt16} {deed : Deed} {deeds : Deeds} {c' : Client} {hub : Hub}

theorem Reading.asks?_eq_some : reading.asks? = some datatype ↔
    ∃ reserved, reading = .frame (.notify reserved datatype) ∧ Kind.reserved datatype = false := by
  constructor
  · intro h
    unfold asks? at h
    split at h
    · split at h
      · cases h
      · rename_i reserved asked hfree
        obtain rfl := Option.some.inj h
        exact ⟨reserved, rfl, Bool.eq_false_of_not_eq_true hfree⟩
    · cases h
  · rintro ⟨reserved, rfl, hfree⟩
    simp [asks?, hfree]

theorem Reading.turn_of_asks (h : reading.asks? = some datatype) : reading.turn fresh connection b =
    ⟨.go, { connection with subscribed := true }, { b with
      interest := b.interest.subscribe connection.name datatype connection.name
      boxes := b.boxes.ensure connection.name b.noteQueue }⟩ := by
  obtain ⟨reserved, rfl, hfree⟩ := asks?_eq_some.mp h
  rw [turn, Api.Connection.onFrame_notify_of_free hfree]

theorem Reading.turn_of_asks_none (h : reading.asks? = none) (fresh : MessageId)
    (connection : Api.Connection) (b : Api.Bridge) :
    (reading.turn fresh connection b).connection = connection ∧
      ∃ announces, (reading.turn fresh connection b).bridge = { b with announces } := by
  match reading, h with
  | .frame (.announce ttl reserved datatype payload), _ =>
      obtain ⟨_, hcase⟩ | ⟨_, _, hcase⟩ | ⟨_, _, hcase⟩ :=
        b.announce_cases fresh ttl datatype payload
      · exact ⟨rfl, b.announces, congrArg Prod.snd hcase⟩
      · exact ⟨rfl, b.announces, congrArg Prod.snd hcase⟩
      · exact ⟨rfl, _, congrArg Prod.snd hcase⟩
  | .frame (.notify reserved datatype), h =>
      have hreserved : Kind.reserved datatype = true := by
        cases hr : Kind.reserved datatype
        · simp [asks?, hr] at h
        · rfl
      rw [turn, Api.Connection.onFrame_notify_of_reserved hreserved]
      exact ⟨rfl, _, rfl⟩
  | .frame (.validation ..), _ | .frame (.notification ..), _ | .fault _, _ | .ended, _ =>
      exact ⟨rfl, _, rfl⟩

-- A deed changes the interest map on a request and at the end.
theorem Client.Step.interest_cases (hs : c.Step b deed c' b') :
    (∃ datatype, deed.asks? = some datatype ∧ c.connection.isOpen = true ∧
      b'.interest = b.interest.subscribe c.connection.name datatype c.connection.name) ∨
    (deed = .left ∧ c.left = false ∧
      b'.interest =
        if c.connection.subscribed then (b.interest.unsubscribe c.connection.name).2
        else b.interest) ∨
    (deed.asks? = none ∧ deed ≠ .left ∧ b'.interest = b.interest) := by
  cases hs with
  | @read reading rest turn fresh hopen hidle hnext hturn =>
      cases hasks : reading.asks? with
      | some datatype =>
          rw [Reading.turn_of_asks hasks] at hturn
          exact Or.inl ⟨datatype, hasks, hopen, hturn ▸ rfl⟩
      | none =>
          obtain ⟨_, announces, hbridge⟩ := Reading.turn_of_asks_none hasks fresh c.connection b
          refine Or.inr (Or.inr ⟨hasks, by simp, ?_⟩)
          rw [← hturn, hbridge]
  | leave hclosed hleft => exact Or.inr (Or.inl ⟨rfl, hleft, rfl⟩)
  | _ => exact Or.inr (Or.inr ⟨rfl, by simp, rfl⟩)

theorem Client.Step.name_eq (hs : c.Step b deed c' b') :
    c'.connection.name = c.connection.name := by
  cases hs with
  | send bytes h =>
      obtain ⟨_, hgets⟩ := c.gets_eq bytes
      rw [hgets]
  | @read reading rest turn fresh hopen hidle hnext hturn =>
      subst hturn
      cases hasks : reading.asks? with
      | some datatype => rw [Reading.turn_of_asks hasks]; rfl
      | none => exact congrArg (·.name) (Reading.turn_of_asks_none hasks fresh c.connection b).1
  | _ => rfl

-- What the deeds of a connection tell of it.
structure Client.Told (name : String) (deeds : Deeds) (c : Client) : Prop where
  name : c.connection.name = name
  left : c.left = true ↔ .left ∈ deeds
  opened : c.connection.isOpen = true → c.left = false
  dropped : .dropped ∈ deeds → c.left = true
  subscribed : c.connection.subscribed = true ↔ deeds.asked ≠ [] ∧ .dropped ∉ deeds

theorem Client.told_accepted (name : String) : Client.Told name [] (.accepted name) where
  name := rfl
  left := by simp [Client.accepted]
  opened _ := rfl
  dropped h := absurd h List.not_mem_nil
  subscribed := by simp [Client.accepted, Api.Connection.start, Deeds.asked]

theorem Client.Told.not_left (h : Client.Told name deeds c) (hleft : c.left = false) :
    .left ∉ deeds := by
  simp [← h.left, hleft]

theorem Client.Told.not_dropped (h : Client.Told name deeds c) (hleft : c.left = false) :
    .dropped ∉ deeds :=
  fun hdropped => Bool.false_ne_true (hleft.symm.trans (h.dropped hdropped))

-- Most deeds tell nothing of it.
theorem Client.Told.quiet (h : Client.Told name deeds c) (hasks : deed.asks? = none)
    (hdeed : deed ≠ .left)
    (hlate : deed ≠ .dropped) (hname : c'.connection.name = c.connection.name)
    (hleft : c'.left = c.left) (hopen : c'.connection.isOpen = true → c.connection.isOpen = true)
    (hsubscribed : c'.connection.subscribed = c.connection.subscribed) :
    Client.Told name (deeds ++ [deed]) c' where
  name := hname.trans h.name
  left := by simpa [hleft, hdeed.symm] using h.left
  opened ho := hleft.trans (h.opened (hopen ho))
  dropped := by simpa [hleft, hlate.symm] using h.dropped
  subscribed := by
    rw [hsubscribed, Deeds.asked_append, Deeds.asked_singleton, hasks, Option.toList_none,
      List.append_nil]
    simpa [hlate.symm] using h.subscribed

theorem Client.Told.step (h : Client.Told name deeds c) (hs : c.Step b deed c' b') :
    Client.Told name (deeds ++ [deed]) c' := by
  have hname := hs.name_eq
  cases hs with
  | send bytes _ =>
      obtain ⟨_, hgets⟩ := c.gets_eq bytes
      rw [hgets]
      exact h.quiet rfl (by simp) (by simp) rfl rfl id rfl
  | @read reading rest turn fresh hopen hidle hnext hturn =>
      subst hturn
      cases hasks : reading.asks? with
      | some datatype =>
          have hleft := h.opened hopen
          have hdeed (turn : Api.Turn) : (Deed.read reading b turn).asks? = some datatype := hasks
          rw [Reading.turn_of_asks hasks] at hname ⊢
          exact ⟨hname.trans h.name, by simp [Client.after, hleft, h.not_left hleft],
            fun _ => hleft,
            by simp [h.not_dropped hleft], by simp [Client.after, hdeed, h.not_dropped hleft]⟩
      | none =>
          have hsame := (Reading.turn_of_asks_none hasks fresh c.connection b).1
          exact h.quiet hasks (by simp) (by simp) hname rfl (fun _ => hopen)
            (congrArg (·.subscribed) hsame)
  | lose hopen | stop hopen => exact h.quiet rfl (by simp) (by simp) hname rfl (fun _ => hopen) rfl
  | leave hclosed hleft =>
      exact ⟨hname.trans h.name, by simp, fun ho =>
        absurd (hclosed.symm.trans ho) Bool.false_ne_true, by simp,
        by simpa [Deed.asks?, Deed.reading?] using h.subscribed⟩
  | drop hleft =>
      exact ⟨hname.trans h.name, by simpa using h.left, h.opened, fun _ => hleft, by simp⟩
  | _ => exact h.quiet rfl (by simp) (by simp) hname rfl id rfl

theorem Client.told_of_run (run : Run Client.Moves (.accepted name) deeds c) :
    Client.Told name deeds c := by
  induction run with
  | refl => exact Client.told_accepted name
  | step _ hs ih =>
      obtain ⟨_, _, hs⟩ := hs
      exact ih.step hs

theorem told_of_run
    (run : Run (Step H) (start self settings announceQueue dispatchQueue noteQueue) events h)
    (hc : h.clients name = some c) : Client.Told name (events.deeds name) c := by
  rcases client_of_new run rfl with ⟨hnone, _⟩ | ⟨d, hd, hrun⟩
  · cases hnone.symm.trans hc
  · cases hc.symm.trans hd
    exact Client.told_of_run hrun

-- The interest map holds what was asked for by those who have not left.
structure Known (events : Events) (h : Hub) : Prop where
  tidy : h.bridge.interest.Tidy
  holds : ∀ name datatype, h.bridge.interest.Holds name datatype ↔
    datatype ∈ (events.deeds name).asked ∧ .left ∉ events.deeds name

theorem Known.did (h : Known events hub) (htold : Client.Told name (events.deeds name) c)
    (hs : c.Step hub.bridge deed c' b) :
    Known (events ++ [.did name deed]) ({ hub with bridge := b }.put name c') := by
  have hname := htold.name
  rcases hs.interest_cases with ⟨datatype, hasks, hopen, hinterest⟩ | ⟨rfl, hleft, hinterest⟩ |
    ⟨hasks, hdeed, hinterest⟩
  · refine ⟨by simpa [hinterest] using h.tidy.subscribe _ _, fun other asked => ?_⟩
    have hstays := htold.not_left (htold.opened hopen)
    have hdeed : deed ≠ .left := fun he => by simp [he, Deed.asks?, Deed.reading?] at hasks
    rw [put_bridge, hinterest, Interest.holds_subscribe, h.holds, hname]
    by_cases hsame : name = other
    · subst hsame
      simp [hasks, hstays, hdeed.symm]
    · simp [hsame, Ne.symm hsame]
  · refine ⟨?_, fun other asked => ?_⟩
    · rw [put_bridge, hinterest]
      split
      · exact h.tidy.unsubscribe _
      · exact h.tidy
    · rw [put_bridge, hinterest]
      split
      · rw [Interest.holds_unsubscribe, h.holds, hname]
        by_cases hsame : name = other
        · subst hsame
          simp
        · simp [hsame, Ne.symm hsame]
      · rename_i hnone
        have hasked : (events.deeds name).asked = [] := by
          simpa [htold.subscribed, htold.not_dropped hleft] using hnone
        rw [h.holds]
        by_cases hsame : name = other
        · subst hsame
          simp [Deed.asks?, Deed.reading?, hasked]
        · simp [hsame]
  · refine ⟨by simpa [hinterest] using h.tidy, fun other asked => ?_⟩
    rw [put_bridge, hinterest, h.holds]
    by_cases hsame : name = other
    · subst hsame
      simp [hasks, hdeed.symm]
    · simp [hsame]

theorem known_of_run
    (run : Run (Step H) (start self settings announceQueue dispatchQueue noteQueue) events h) :
    Known events h := by
  induction run with
  | refl =>
      exact ⟨Interest.tidy_empty, by simp [start, Api.Bridge.start, Events.deeds, Deeds.asked]⟩
  | step hrun hs ih =>
      cases hs with
      | did hname hstep => exact ih.did (told_of_run hrun hname) hstep
      | _ => exact ⟨ih.tidy, by simpa using ih.holds⟩

end Interest

end Parts

end Hub

end Rumor
