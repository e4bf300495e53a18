import Rumor.Proofs.Engine

-- A message that is dropped leaves no trace: a node that never saw it goes on as one
-- that did.
namespace Rumor

def Outcome.isDropped : Outcome → Bool
  | .invalidStamp | .malformed | .duplicate => true
  | .processed _ => false

namespace Engine

-- What comes to a node: a message from a peer, and what chance holds for it, or anything
-- else that changes what the node knows.
inductive Event
  | message (draw : Draw) (m : Message)
  | other (change : Engine → Engine)

-- What is seen of an event from outside. The notes are those that found room.
structure Report where
  event : Event
  outcome : Option Outcome
  sends : List Send
  notes : List Note

def Report.isDropped (r : Report) : Bool :=
  r.outcome.any Outcome.isDropped

def report (H : Digest) (e : Engine) (event : Event) : Report :=
  match event with
  | .message draw m =>
      let h := e.handle H draw m
      ⟨event, some h.outcome, h.sends, h.engine.notes.items.drop e.notes.items.length⟩
  | .other _ => ⟨event, none, [], []⟩

def next (H : Digest) (e : Engine) : Event → Engine
  | .message draw m => (e.handle H draw m).engine
  | .other change => change e

def last (H : Digest) (e : Engine) (events : List Event) : Engine :=
  events.foldl (next H) e

def reports (H : Digest) (e : Engine) : List Event → List Report
  | [] => []
  | event :: rest => e.report H event :: (e.next H event).reports H rest

-- Some of the messages that were dropped are left out.
inductive Thinned : List Report → List Report → Prop
  | nil : Thinned [] []
  | keep (r : Report) {all kept : List Report} : Thinned all kept → Thinned (r :: all) (r :: kept)
  | leave {r : Report} {all kept : List Report} :
      r.isDropped = true → Thinned all kept → Thinned (r :: all) kept

section Dropped

variable {H : Digest} {e : Engine}

@[simp] theorem report_event (event : Event) : (e.report H event).event = event := by
  cases event <;> rfl

theorem handle_of_isDropped {draw : Draw} {m : Message}
    (h : (e.handle H draw m).outcome.isDropped = true) :
    e.handle H draw m = ⟨(e.handle H draw m).outcome, [], e⟩ := by
  rcases handle_cases H draw m e with ⟨_, outcome, he, _⟩ | ⟨kind, _, _, _, he⟩
  · rw [he]
  · rw [he] at h
    cases h

-- Nothing is sent for a message that is dropped, nobody is told, and the node is as before.
theorem quiet_of_isDropped {event : Event} (h : (e.report H event).isDropped = true) :
    e.next H event = e ∧ (e.report H event).sends = [] ∧ (e.report H event).notes = [] := by
  cases event with
  | message draw m =>
      have hhandle : e.handle H draw m = ⟨(e.handle H draw m).outcome, [], e⟩ :=
        handle_of_isDropped h
      simp only [next, report]
      rw [hhandle]
      exact ⟨rfl, rfl, List.drop_length⟩
  | other change => cases h

-- Leaving out messages that were dropped changes nothing about the others, nor what is
-- sent and told in all, nor the node in the end.
theorem reports_of_thinned (events : List Event) {kept : List Report}
    (h : Thinned (e.reports H events) kept) :
    e.reports H (kept.map (·.event)) = kept ∧ e.last H (kept.map (·.event)) = e.last H events ∧
      kept.flatMap (·.sends) = (e.reports H events).flatMap (·.sends) ∧
      kept.flatMap (·.notes) = (e.reports H events).flatMap (·.notes) := by
  induction events generalizing e kept with
  | nil =>
      cases h
      exact ⟨rfl, rfl, rfl, rfl⟩
  | cons event rest ih =>
      simp only [reports] at h
      cases h with
      | keep _ h =>
          obtain ⟨hreports, hlast, hsends, hnotes⟩ := ih h
          simp only [List.map_cons, report_event, reports, last, List.foldl_cons, List.flatMap_cons]
          exact ⟨congrArg _ hreports, hlast, congrArg _ hsends, congrArg _ hnotes⟩
      | leave hdropped h =>
          obtain ⟨hnext, hsends, hnotes⟩ := quiet_of_isDropped hdropped
          rw [hnext] at h
          simp only [reports, last, List.foldl_cons, List.flatMap_cons, hnext, hsends, hnotes,
            List.nil_append]
          exact ih h

end Dropped

section Echo

-- A node with one peer and one subscriber, that remembers one id only.
def listener : Engine where
  settings := { fanout := 1 }
  peers := ⟨"a", 30, ["b"], .ofList ["b"], [], false⟩
  cache := .empty 1
  interest := ⟨[⟨"c", "q", [0]⟩]⟩
  notes := .empty 2

def gossiped : Message :=
  { ttl := 2, id := 1 }

def garbled : Message :=
  { kind := -1, id := 2 }

def heard : Handled :=
  ⟨.processed ["b"], [⟨"b", { gossiped with sender := "a", ttl := 1 }⟩],
    { (listener.remember 1).2 with notes := ⟨2, [⟨1, 0, []⟩], true⟩ }⟩

theorem listener_handle (H : Digest) : listener.handle H (.inOrder 0) gossiped = heard := by
  let e := heard.engine
  have hkind : gossiped.kind? = some (.data 0) := rfl
  have hnew := handle_of_new (H := H) (e := listener) (.inOrder 0) rfl hkind (by decide)
  have hdispatch : (listener.remember 1).2.dispatch H (.inOrder 0) (.data 0) gossiped = ([], e) :=
    rfl
  have hrelays : relays H (.inOrder 0) (.data 0) gossiped e = heard.sends := by
    have hgossip := gossip_unstamped (H := H) (e := e) (m := spend gossiped) 0 rfl (by decide)
    rw [relays, hgossip]
    rfl
  rw [hnew, show gossiped.id = 1 from rfl, hdispatch, hrelays]
  rfl

theorem heard_handle_garbled (H : Digest) :
    heard.engine.handle H (.inOrder 0) garbled = ⟨.malformed, [], heard.engine⟩ := rfl

theorem heard_handle_gossiped (H : Digest) :
    heard.engine.handle H (.inOrder 0) gossiped = ⟨.duplicate, [], heard.engine⟩ := by
  have hkind : gossiped.kind? = some (.data 0) := rfl
  exact handle_of_known (.inOrder 0) rfl hkind (Cache.mem_insert (by decide) 1)

-- What is no message comes between a rumor and its echo. Without it the echo is known
-- all the same, and the rumor is relayed and told of once.
theorem echo_known_without_garbled :
    let H : Digest := .ofFunction fun _ => []
    let rumor : Event := .message (.inOrder 0) gossiped
    let noise : Event := .message (.inOrder 0) garbled
    let kept : List Report :=
      [⟨rumor, some (.processed ["b"]), heard.sends, [⟨1, 0, []⟩]⟩,
        ⟨rumor, some .duplicate, [], []⟩]
    Thinned (listener.reports H [rumor, noise, rumor]) kept ∧
    listener.reports H [rumor, rumor] = kept ∧
      listener.last H [rumor, rumor] = listener.last H [rumor, noise, rumor] := by
  intro H rumor noise kept
  have hall : listener.reports H [rumor, noise, rumor] =
      [⟨rumor, some (.processed ["b"]), heard.sends, [⟨1, 0, []⟩]⟩,
        ⟨noise, some .malformed, [], []⟩, ⟨rumor, some .duplicate, [], []⟩] := by
    simp only [reports, report, next, rumor, noise, listener_handle, heard_handle_garbled,
      heard_handle_gossiped]
    rfl
  have hthinned : Thinned (listener.reports H [rumor, noise, rumor]) kept := by
    rw [hall]
    exact .keep _ (.leave rfl (.keep _ .nil))
  obtain ⟨hreports, hlast, _⟩ := reports_of_thinned _ hthinned
  exact ⟨hthinned, hreports, hlast⟩

end Echo

end Engine

end Rumor
