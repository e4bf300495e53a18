import Mathlib.Data.Multiset.AddSub
import Mathlib.Data.Multiset.MapFold
import Rumor.Proofs.Engine
import Rumor.Proofs.Run

namespace Rumor

-- A message on its way. `origin` is the place of the message that it goes back to
-- among those that were originated, and `relayedBy` tells who handed it on.
structure Flight (ι : Type) where
  send : Send
  sentBy : ι
  origin : Option Nat
  relayedBy : List ι

-- What node `i` sends on taking in `f`.
def Flight.next {ι : Type} (f : Flight ι) (i : ι) (send : Send) : Flight ι where
  send := send
  sentBy := i
  origin := f.origin
  relayedBy := if send.message.isFlooded then f.relayedBy ++ [i] else []

@[simp] theorem Flight.next_send {ι : Type} (f : Flight ι) (i : ι) (send : Send) :
    (f.next i send).send = send := rfl

@[simp] theorem Flight.next_sentBy {ι : Type} (f : Flight ι) (i : ι) (send : Send) :
    (f.next i send).sentBy = i := rfl

-- Nodes that send each other messages.
structure Overlay (ι : Type) where
  nodes : ι → Engine
  flying : Multiset (Flight ι)
  originated : List Message

namespace Overlay

inductive Event (ι : Type)
  | handled (i : ι) (f : Flight ι) (before : Engine) (h : Engine.Handled)
  | sent (flights : List (Flight ι))
  | quiet

def Event.sends {ι : Type} : Event ι → List (Flight ι)
  | .handled i f _ h => h.sends.map (f.next i)
  | .sent flights => flights
  | .quiet => []

-- Nodes keep their addresses and settings for good.
def SameNodes {ι : Type} (o o' : Overlay ι) : Prop :=
  ∀ i, (o'.nodes i).self = (o.nodes i).self ∧ (o'.nodes i).settings = (o.nodes i).settings

theorem SameNodes.trans {ι : Type} {o o' o'' : Overlay ι} (h : SameNodes o o')
    (h' : SameNodes o' o'') : SameNodes o o'' :=
  fun i => ⟨(h' i).1.trans (h i).1, (h' i).2.trans (h i).2⟩

def quiet {ι : Type} (nodes : ι → Engine) : Overlay ι :=
  ⟨nodes, 0, []⟩

variable {ι : Type} [DecidableEq ι]

-- Node `i` comes to `e` and sends `flights`.
def act (o : Overlay ι) (i : ι) (e : Engine) (flights : List (Flight ι)) : Overlay ι :=
  { o with nodes := Function.update o.nodes i e, flying := o.flying + flights }

@[simp] theorem act_flying (o : Overlay ι) (i : ι) (e : Engine) (flights : List (Flight ι)) :
    (o.act i e flights).flying = o.flying + flights := rfl

theorem act_nodes (o : Overlay ι) (i j : ι) (e : Engine) (flights : List (Flight ι)) :
    (o.act i e flights).nodes j = if j = i then e else o.nodes j := by
  by_cases h : j = i
  · subst h
    simp [act]
  · simp [act, h]

@[simp] theorem act_nodes_self (o : Overlay ι) (i : ι) (e : Engine) (flights : List (Flight ι)) :
    (o.act i e flights).nodes i = e := by
  rw [act_nodes, if_pos rfl]

-- What `e` has in common with node `i`, every node keeps.
theorem act_congr {α : Type} (g : Engine → α) {o : Overlay ι} {i : ι} {e : Engine}
    (flights : List (Flight ι))
    (h : g e = g (o.nodes i)) (j : ι) : g ((o.act i e flights).nodes j) = g (o.nodes j) := by
  rw [act_nodes]
  split
  · rename_i hj
    rw [hj, h]
  · rfl

theorem act_idle (o : Overlay ι) (i : ι) : o.act i (o.nodes i) [] = o := by
  simp [act]

-- One message in flight reaches a node of its address.
inductive Delivery (H : Digest) (o : Overlay ι) : Event ι → Overlay ι → Prop
  | mk (f : Flight ι) (rest : Multiset (Flight ι)) (i : ι) (draw : Draw) (h : Engine.Handled)
      (hflying : o.flying = f ::ₘ rest) (htarget : (o.nodes i).self = f.send.target)
      (hhandle : (o.nodes i).handle H draw f.send.message = h) :
      Delivery H o (.handled i f (o.nodes i) h)
        (act { o with flying := rest } i h.engine (h.sends.map (f.next i)))

-- The ways in which a node makes a message that spreads.
inductive Makes (H : Digest) (draw : Draw) (e : Engine) :
    Message → Except PeerError (List Send) × Engine → Prop
  | originate (m : Message) : Makes H draw e m (e.originate H draw m)
  | announceJoin :
      Makes H draw e (.join draw.fresh e.self e.settings.joinTtl) (e.announceJoin H draw)
  | announceLeave :
      Makes H draw e (.leave draw.fresh e.self e.settings.joinTtl) (e.announceLeave H draw)

theorem Makes.eq {H : Digest} {draw : Draw} {e e' : Engine} {m : Message}
    {result : Except PeerError (List Send)} (h : Makes H draw e m (result, e')) :
    result = (e.originate H draw m).1 ∧ e' = (e.originate H draw m).2 := by
  generalize hmade : (result, e') = made at h
  cases h <;> exact ⟨congrArg Prod.fst hmade, congrArg Prod.snd hmade⟩

def launched (o : Overlay ι) (i : ι) (result : Except PeerError (List Send)) : List (Flight ι) :=
  (result.toOption.getD []).map fun send => ⟨send, i, some o.originated.length, []⟩

-- Sends that go back to no message that was originated.
def detached (i : ι) (sends : List Send) : List (Flight ι) :=
  sends.map (⟨·, i, none, []⟩)

-- Node `i` makes `m`, and comes to `e`.
def spread (o : Overlay ι) (i : ι) (m : Message) (result : Except PeerError (List Send))
    (e : Engine) : Overlay ι :=
  { o.act i e (o.launched i result) with originated := o.originated ++ [m] }

inductive Step (H : Digest) (o : Overlay ι) : Event ι → Overlay ι → Prop
  | delivered {event : Event ι} {o' : Overlay ι} (h : Delivery H o event o') : Step H o event o'
  | made (i : ι) (draw : Draw) (m : Message) (result : Except PeerError (List Send)) (e : Engine)
      (h : Makes H draw (o.nodes i) m (result, e)) :
      Step H o (.sent (o.launched i result)) (o.spread i m result e)
  | refreshed (i : ι) (draw : Draw) (routes : String → Route) (asked : Engine.Asked (Option String))
      (h : (o.nodes i).refresh H draw routes = asked) :
      Step H o (.sent (detached i asked.sends)) (o.act i asked.engine (detached i asked.sends))
  | lost (f : Flight ι) (rest : Multiset (Flight ι)) (hflying : o.flying = f ::ₘ rest) :
      Step H o .quiet { o with flying := rest }
  -- Views of a registry, subscribers and what else changes a node from within.
  | meanwhile (i : ι) (e : Engine) (hself : e.self = (o.nodes i).self)
      (hsettings : e.settings = (o.nodes i).settings) :
      Step H o .quiet (o.act i e [])

theorem sameNodes_act {o : Overlay ι} {i : ι} {e : Engine} (flights : List (Flight ι))
    (hself : e.self = (o.nodes i).self) (hsettings : e.settings = (o.nodes i).settings) :
    SameNodes o (o.act i e flights) :=
  fun j => ⟨act_congr Engine.self flights hself j, act_congr Engine.settings flights hsettings j⟩

theorem Delivery.sameNodes {H : Digest} {o o' : Overlay ι} {event : Event ι}
    (h : Delivery H o event o') : SameNodes o o' := by
  cases h with
  | mk f rest i draw h hflying htarget hhandle =>
      obtain ⟨hsettings, hself⟩ := Engine.handle_frame H draw f.send.message (o.nodes i)
      rw [hhandle] at hsettings hself
      exact sameNodes_act (o := { o with flying := rest }) _ hself hsettings

theorem Step.sameNodes {H : Digest} {o o' : Overlay ι} {event : Event ι} (h : Step H o event o') :
    SameNodes o o' := by
  cases h with
  | delivered h => exact h.sameNodes
  | made i draw m result e h =>
      obtain ⟨_, rfl⟩ := h.eq
      exact sameNodes_act (o.launched i result) rfl rfl
  | refreshed i draw routes asked h =>
      obtain ⟨hself, hsettings⟩ := Engine.refresh_frame H draw routes (o.nodes i)
      rw [h] at hself hsettings
      exact sameNodes_act _ hself hsettings
  | lost f rest hflying => exact fun _ => ⟨rfl, rfl⟩
  | meanwhile i e hself hsettings => exact sameNodes_act _ hself hsettings

theorem sameNodes_run {H : Digest} {o o' : Overlay ι} {events : List (Event ι)}
    (run : Run (Step H) o events o') : SameNodes o o' :=
  run.invariant (fun _ => ⟨rfl, rfl⟩) fun _ _ _ h hs => h.trans hs.sameNodes

theorem Step.originated_grows {H : Digest} {o o' : Overlay ι} {event : Event ι}
    (h : Step H o event o') : o.originated <+: o'.originated := by
  cases h with
  | delivered h =>
      cases h
      exact List.prefix_refl _
  | made => exact List.prefix_append _ _
  | _ => exact List.prefix_refl _

theorem originated_grows_run {H : Digest} {o o' : Overlay ι} {events : List (Event ι)}
    (run : Run (Step H) o events o') : o.originated <+: o'.originated :=
  run.invariant (P := fun o' => o.originated <+: o'.originated) (List.prefix_refl _)
    fun _ _ _ h hs => h.trans hs.originated_grows

section Pair

-- Two nodes that know each other. Both have subscribers.
def pair (i : Bool) : Engine where
  settings := {}
  peers :=
    if i then ⟨"b", 30, ["a"], .ofList ["a"], [], false⟩ else
      ⟨"a", 30, ["b"], .ofList ["b"], [], false⟩
  cache := .empty 1000
  interest := ⟨[⟨"c", "q", [0]⟩]⟩
  notes := .empty 1

def rumor : Message :=
  { ttl := 2, id := 1 }

-- The rumor on its way from the first to the second, and back.
def outward : Flight Bool :=
  ⟨⟨"b", { rumor with sender := "a" }⟩, false, some 0, []⟩

def homeward : Flight Bool :=
  ⟨⟨"a", { rumor with sender := "b", ttl := 1 }⟩, true, some 0, [true]⟩

theorem pair_originate (H : Digest) : (pair false).originate H (.inOrder 0) rumor =
    (.ok [outward.send], ((pair false).remember 1).2) := by
  have hgossip := Engine.gossip_unstamped (H := H) (e := ((pair false).remember 1).2)
    (m := rumor) 0 rfl (by decide)
  exact congrArg (·, ((pair false).remember 1).2) hgossip

def heard : Engine.Handled :=
  ⟨.processed ["a"], [homeward.send],
    { ((pair true).remember 1).2 with notes := ⟨1, [⟨1, 0, []⟩], true⟩ }⟩

theorem pair_handle (H : Digest) :
    (pair true).handle H (.inOrder 0) outward.send.message = heard := by
  let e := heard.engine
  have hkind : outward.send.message.kind? = some (.data 0) := rfl
  have hnew := Engine.handle_of_new (H := H) (e := pair true) (.inOrder 0) rfl hkind (by decide)
  have hdispatch :
      ((pair true).remember 1).2.dispatch H (.inOrder 0) (.data 0) outward.send.message =
      ([], e) := rfl
  have hrelays : Engine.relays H (.inOrder 0) (.data 0) outward.send.message e =
      [homeward.send] := by
    have hgossip :=
      Engine.gossip_unstamped (H := H) (e := e) (m := Engine.spend outward.send.message) 0 rfl
        (by decide)
    rw [Engine.relays, hgossip]
    rfl
  rw [hnew, show outward.send.message.id = 1 from rfl, hdispatch, hrelays]
  rfl

def told : Overlay Bool :=
  (quiet pair).spread false rumor (.ok [outward.send]) ((pair false).remember 1).2

def relayed : Overlay Bool :=
  act { told with flying := 0 } true heard.engine [homeward]

theorem pair_makes (H : Digest) :
    Makes H (.inOrder 0) (pair false) rumor (.ok [outward.send], ((pair false).remember 1).2) :=
  pair_originate H ▸ Makes.originate rumor

theorem pair_made (H : Digest) : Step H (quiet pair) (.sent [outward]) told :=
  Step.made (o := quiet pair) false (.inOrder 0) rumor _ _ (pair_makes H)

theorem pair_delivery (H : Digest) :
    Delivery H told (.handled true outward (pair true) heard) relayed :=
  .mk outward 0 true (.inOrder 0) heard rfl rfl (pair_handle H)

end Pair

end Overlay

end Rumor
