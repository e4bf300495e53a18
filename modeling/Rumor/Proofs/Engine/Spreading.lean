import Rumor.Proofs.Engine.Membership
import Rumor.Proofs.Run
import Rumor.Proofs.Stamp.Search

-- Whom a message is handed over for, when it is spread and when it is relayed.
namespace Rumor

-- Every send is a task of its own, and the engine does not wait for it. A task makes one
-- attempt; whether it failed is read by nobody.
structure Tasks where
  waiting : List Send
  ended : List (Send × Except PeerError Bytes)

namespace Tasks

structure Attempt where
  send : Send
  route : Route

def Attempt.result (a : Attempt) : Except PeerError Bytes :=
  a.route.send a.send.target a.send.message

def start (sends : List Send) : Tasks :=
  ⟨sends, []⟩

inductive Step : Tasks → Attempt → Tasks → Prop
  | attempt (before after : List Send) (ended : List (Send × Except PeerError Bytes))
      (a : Attempt) :
      Step ⟨before ++ a.send :: after, ended⟩ a ⟨before ++ after, ended ++ [(a.send, a.result)]⟩

-- Whichever attempts fail and whatever comes first, each of `sends` is attempted once.
structure EachOnce (sends : List Send) : Prop where
  perm : ∀ attempts tasks, Run Step (start sends) attempts tasks →
    (attempts.map (·.send) ++ tasks.waiting).Perm sends
  results : ∀ attempts tasks, Run Step (start sends) attempts tasks →
    tasks.ended = attempts.map fun a => (a.send, a.result)
  goesOn : ∀ attempts tasks, Run Step (start sends) attempts tasks →
    ∀ send ∈ tasks.waiting, ∀ route, ∃ tasks', Step tasks ⟨send, route⟩ tasks'

variable {tasks tasks' : Tasks} {a : Attempt}

theorem Step.perm (h : Step tasks a tasks') : tasks.waiting.Perm (a.send :: tasks'.waiting) := by
  obtain ⟨before, after, ended, _⟩ := h
  exact List.perm_middle

theorem Step.ended_eq (h : Step tasks a tasks') :
    tasks'.ended = tasks.ended ++ [(a.send, a.result)] := by
  cases h
  rfl

theorem exists_step {send : Send} (h : send ∈ tasks.waiting) (route : Route) :
    ∃ tasks', Step tasks ⟨send, route⟩ tasks' := by
  obtain ⟨waiting, ended⟩ := tasks
  obtain ⟨before, after, rfl⟩ := List.append_of_mem h
  exact ⟨_, .attempt before after ended ⟨send, route⟩⟩

theorem each_once (sends : List Send) : EachOnce sends where
  perm attempts tasks h := by
    induction h with
    | refl => exact List.Perm.refl _
    | @step attempts tasks tasks' a _ hs ih =>
        have hmoved : (attempts.map (·.send) ++ tasks.waiting).Perm
            (attempts.map (·.send) ++ a.send :: tasks'.waiting) := hs.perm.append_left _
        rw [List.map_append, List.append_assoc]
        exact hmoved.symm.trans ih
  results attempts tasks h := by
    induction h with
    | refl => rfl
    | step _ hs ih => rw [hs.ended_eq, ih, List.map_append, List.map_singleton]
  goesOn _ _ _ _ hwaiting route := exists_step hwaiting route

end Tasks

namespace Engine

variable {H : Digest} {draw : Draw} {kind : Kind} {m : Message} {e : Engine} {flood : Flood}

-- Whether some nonce passes for a message in this node's name.
def CanStamp (H : Digest) (e : Engine) (m : Message) : Prop :=
  ∃ nonce, Stamp.isValid H e.settings.difficulty { m with sender := e.self, nonce } = true

-- What is sent and told when `m` is spread from `e`.
structure IsFlood (H : Digest) (e : Engine) (m : Message) (flood : Flood) : Prop where
  id : flood.told.id = m.id
  nodup : flood.told.targets.Nodup
  length : flood.told.targets.length = min e.settings.fanout e.peers.members.length
  members : ∀ target ∈ flood.told.targets, target ∈ e.peers.members
  copies : ∃ nonce, flood.sends = flood.told.targets.map (⟨·, { m with sender := e.self, nonce }⟩) ∧
    Stamp.isValid H e.settings.difficulty { m with sender := e.self, nonce } = true ∧
    ∀ less < nonce,
      Stamp.isValid H e.settings.difficulty { m with sender := e.self, nonce := less } = false

section Flood

-- The least nonce that passes is taken, if there is one.
theorem stamp_cases (H : Digest) (e : Engine) (m : Message) :
    (∃ nonce, Stamp.isValid H e.settings.difficulty { m with nonce } = true ∧
      (∀ less < nonce, Stamp.isValid H e.settings.difficulty { m with nonce := less } = false) ∧
      e.stamp H m = .ok { m with nonce }) ∨
    (∀ nonce, Stamp.isValid H e.settings.difficulty { m with nonce } = false) ∧
      e.stamp H m = .error (.noNonce e.settings.difficulty) := by
  have hnumber (nonce : UInt64) : UInt64.ofNat nonce.toNat = nonce := UInt64.ofNat_toNat
  rcases Stamp.stamp?_cases H e.settings.difficulty m with
    ⟨k, hk, hfailed, hpass, hstamp⟩ | ⟨hfailed, hstamp⟩
  · refine Or.inl ⟨.ofNat k, hpass, fun less hless => ?_, by rw [stamp, hstamp]⟩
    rw [UInt64.lt_iff_toNat_lt, UInt64.toNat_ofNat_of_lt' hk] at hless
    exact hnumber less ▸ hfailed less.toNat hless
  · refine Or.inr ⟨fun nonce => ?_, by rw [stamp, hstamp]⟩
    exact hnumber nonce ▸ hfailed nonce.toNat nonce.toNat_lt

theorem exists_flood (draw : Draw) (hstamp : CanStamp H e m) :
    ∃ flood, e.flood H draw m = .ok flood := by
  by_cases httl : m.ttl < 1
  · exact ⟨_, flood_of_ttl_lt httl⟩
  · obtain ⟨nonce, hvalid⟩ := hstamp
    rcases stamp_cases H e { m with sender := e.self } with ⟨_, _, _, hs⟩ | ⟨hfailed, _⟩
    · exact ⟨_, flood_of_stamp (Int32.not_lt.mp httl) hs⟩
    · rw [hfailed nonce] at hvalid
      cases hvalid

theorem canStamp_of_flood (httl : 1 ≤ m.ttl) (h : e.flood H draw m = .ok flood) :
    CanStamp H e m := by
  rcases stamp_cases H e { m with sender := e.self } with ⟨nonce, hvalid, _⟩ | ⟨_, hs⟩
  · exact ⟨nonce, hvalid⟩
  · rw [flood_of_error httl hs] at h
    cases h

theorem isFlood_of_flood (hnodup : e.peers.members.Nodup) (httl : 1 ≤ m.ttl)
    (h : e.flood H draw m = .ok flood) : IsFlood H e m flood := by
  rcases stamp_cases H e { m with sender := e.self } with ⟨nonce, hvalid, hleast, hs⟩ | ⟨_, hs⟩
  · rw [flood_of_stamp httl hs] at h
    obtain rfl := Except.ok.inj h
    have hperm : (draw.shuffle e.peers.members).Perm e.peers.members := draw.shuffle_perm _
    constructor
    case id => rfl
    case nodup => exact (hperm.nodup_iff.mpr hnodup).sublist (List.take_sublist _ _)
    case length => rw [List.length_take, hperm.length_eq]
    case members => exact fun target htarget => hperm.mem_iff.mp (List.mem_of_mem_take htarget)
    case copies => exact ⟨nonce, rfl, hvalid, hleast⟩
  · rw [flood_of_error httl hs] at h
    cases h

theorem IsFlood.sends_ne_nil_iff (h : IsFlood H e m flood) :
    flood.sends ≠ [] ↔ 0 < e.settings.fanout ∧ e.peers.members ≠ [] := by
  obtain ⟨nonce, hsends, _⟩ := h.copies
  have hlength : flood.sends.length = min e.settings.fanout e.peers.members.length := by
    rw [hsends, List.length_map, h.length]
  rw [← List.length_pos_iff, ← List.length_pos_iff, hlength, lt_min_iff]

end Flood

section Relay

theorem relays_ne_nil_iff (draw : Draw) (hnodup : e.peers.members.Nodup)
    (hflood : isFlooded kind = true) :
    relays H draw kind m e ≠ [] ↔
      CanStamp H e (spend m) ∧ 2 ≤ m.ttl.toInt ∧ 0 < e.settings.fanout ∧ e.peers.members ≠ [] := by
  have hhops : 1 ≤ (spend m).ttl ↔ 2 ≤ m.ttl.toInt := by
    rw [one_le_ttl_iff, spend_ttl_toInt]
    omega
  rw [relays, if_pos hflood]
  by_cases httl : 1 ≤ (spend m).ttl
  · cases hspread : e.flood H draw (spend m) with
    | error error =>
        have hnone : ¬CanStamp H e (spend m) := by
          intro hstamp
          obtain ⟨flood, hok⟩ := exists_flood draw hstamp
          rw [hspread] at hok
          cases hok
        simp [gossip_of_flood_error hspread, Except.toOption, hnone]
    | ok flood =>
        have hstamp := canStamp_of_flood httl hspread
        have hsome := (isFlood_of_flood hnodup httl hspread).sends_ne_nil_iff
        simp only [gossip_of_flood hspread, Except.toOption, Option.getD_some, hstamp,
          hhops.mp httl, true_and, hsome]
  · have hspent : (spend m).ttl < 1 := Int32.not_le.mp httl
    simp [gossip_of_ttl_lt hspent, Except.toOption, ← hhops, httl]

-- Nobody is answered by a message that goes on to others.
theorem handle_of_flooded (draw : Draw) (hvalid : Stamp.isValid H e.settings.difficulty m = true)
    (hkind : m.kind? = some kind) (hid : m.id ∉ e.cache.ids) (hflood : isFlooded kind = true) :
    let after := ((e.remember m.id).2.dispatch H draw kind m).2
    e.handle H draw m =
      ⟨.processed ((relays H draw kind m after).map (·.target)), relays H draw kind m after,
        after⟩ := by
  intro after
  have hreplies : ((e.remember m.id).2.dispatch H draw kind m).1 = [] := by
    rcases dispatch_replies H draw kind m (e.remember m.id).2 with hnone | ⟨rfl, _⟩
    · exact hnone
    · cases hflood
  rw [handle_of_new draw hvalid hkind hid, hreplies, List.nil_append]

theorem handle_of_direct (draw : Draw) (hvalid : Stamp.isValid H e.settings.difficulty m = true)
    (hkind : m.kind? = some kind) (hid : m.id ∉ e.cache.ids) (hdirect : isFlooded kind = false) :
    let after := (e.remember m.id).2.dispatch H draw kind m
    e.handle H draw m = ⟨.processed [], after.1, after.2⟩ := by
  intro after
  have hnone : relays H draw kind m after.2 = [] := if_neg (Bool.eq_false_iff.mp hdirect)
  rw [handle_of_new draw hvalid hkind hid, hnone, List.append_nil, List.map_nil]

-- What is relayed of `m`, and told of it, by a node that the dispatch left as `after`.
structure IsRelay (H : Digest) (draw : Draw) (m : Message) (after : Engine) (handled : Handled) :
    Prop where
  engine : handled.engine = after
  rest : spend m = { m with ttl := (spend m).ttl }
  hops : (spend m).ttl.toInt = max (m.ttl.toInt - 1) (-2147483648)
  spread : ∀ flood, after.flood H draw (spend m) = .ok flood →
    handled.outcome = .processed flood.told.targets ∧ handled.sends = flood.sends
  chosen : ∀ flood, after.flood H draw (spend m) = .ok flood → 1 ≤ (spend m).ttl →
    IsFlood H after (spend m) flood
  unstamped : ∀ error, after.flood H draw (spend m) = .error error →
    handled.outcome = .processed [] ∧ handled.sends = []
  somebody : handled.sends ≠ [] ↔
    CanStamp H after (spend m) ∧ 2 ≤ m.ttl.toInt ∧ 0 < after.settings.fanout ∧
    after.peers.members ≠ []

theorem isRelay_of_flooded (draw : Draw) (hpeers : e.peers.Sound)
    (hvalid : Stamp.isValid H e.settings.difficulty m = true) (hkind : m.kind? = some kind)
    (hid : m.id ∉ e.cache.ids) (hflood : isFlooded kind = true) :
    IsRelay H draw m ((e.remember m.id).2.dispatch H draw kind m).2 (e.handle H draw m) := by
  have hafter : ((e.remember m.id).2.dispatch H draw kind m).2.peers.Sound :=
    sound_dispatch (e := (e.remember m.id).2) draw kind m hpeers
  rw [handle_of_flooded draw hvalid hkind hid hflood]
  constructor
  case engine => rfl
  case rest => exact spend_rest m
  case hops => exact spend_ttl_toInt m
  case spread =>
    intro flood hspread
    rw [relays, if_pos hflood, gossip_of_flood hspread, targets_of_flood hspread]
    exact ⟨rfl, rfl⟩
  case chosen => exact fun flood hspread httl => isFlood_of_flood hafter.nodup httl hspread
  case unstamped =>
    intro error hspread
    rw [relays, if_pos hflood, gossip_of_flood_error hspread]
    exact ⟨rfl, rfl⟩
  case somebody => exact relays_ne_nil_iff draw hafter.nodup hflood

end Relay

-- The draw decides which peers are chosen and nothing else, and no attempt decides anything.
-- Peers are sound whatever became of a node.
theorem spread_to_chosen_peers (H : Digest) (draw : Draw) (m : Message) (hpeers : e.peers.Sound) :
    (m.ttl < 1 → e.flood H draw m = .ok ⟨⟨m.id, []⟩, []⟩) ∧
    (1 ≤ m.ttl → CanStamp H e m → ∃ flood, e.flood H draw m = .ok flood ∧ IsFlood H e m flood) ∧
    (∀ flood, e.flood H draw m = .ok flood → Tasks.EachOnce flood.sends) ∧
    ∀ kind, Stamp.isValid H e.settings.difficulty m = true → m.kind? = some kind →
      m.id ∉ e.cache.ids →
      let after := (e.remember m.id).2.dispatch H draw kind m
      let handled := e.handle H draw m
      after.2.settings = e.settings ∧ after.2.self = e.self ∧ Tasks.EachOnce handled.sends ∧
      ((∃ datatype, kind = .data datatype) ∨ kind = .join ∨ kind = .leave →
        IsRelay H draw m after.2 handled) ∧
      (kind = .listRequest ∨ kind = .listResponse → handled.outcome = .processed [] ∧
        ∀ send ∈ handled.sends, IsReply H (e.remember m.id).2 draw.fresh m send) := by
  refine ⟨flood_of_ttl_lt, fun httl hstamp => ?_, fun flood _ => Tasks.each_once flood.sends, ?_⟩
  · obtain ⟨flood, hspread⟩ := exists_flood draw hstamp
    exact ⟨flood, hspread, isFlood_of_flood hpeers.nodup httl hspread⟩
  · intro kind hvalid hkind hid after handled
    obtain ⟨hsettings, hself⟩ := dispatch_frame H draw kind m (e.remember m.id).2
    refine ⟨hsettings, hself, Tasks.each_once handled.sends, fun hrelayed => ?_, fun hquiet => ?_⟩
    · have hflood : isFlooded kind = true := by
        rcases hrelayed with ⟨datatype, rfl⟩ | rfl | rfl <;> rfl
      exact isRelay_of_flooded draw hpeers hvalid hkind hid hflood
    · have hdirect : isFlooded kind = false := by
        rcases hquiet with rfl | rfl <;> rfl
      have hhandled : handled = ⟨.processed [], after.1, after.2⟩ :=
        handle_of_direct draw hvalid hkind hid hdirect
      rw [hhandled]
      exact ⟨rfl, fun send hsend => (isReply_of_mem_dispatch hsend).2⟩

-- Both peers are sent to. What comes in with two hops goes on, and with one it does not.
theorem spread_to_chosen_peers_of_crowded :
    let news (ttl : Int32) := Message.data 7 "x" 3 [1] ttl
    let handled (ttl : Int32) := crowded.handle (.ofFunction id) (.inOrder 1) (news ttl)
    crowded.peers.Sound ∧
      (∃ flood, crowded.flood (.ofFunction id) (.inOrder 1) (news 3) = .ok flood ∧
        flood.told.id = 7 ∧ flood.told.targets.Nodup ∧ flood.told.targets.length = 2) ∧
      (handled 2).sends ≠ [] ∧ (handled 1).sends = [] := by
  intro news handled
  have hpeers : crowded.peers.Sound := Peers.sound_ofList (by decide) (by decide) 2 true
  have hall (ttl : Int32) := spread_to_chosen_peers (.ofFunction id) (.inOrder 1) (news ttl) hpeers
  have hcan (e : Engine) (he : e.settings.difficulty = .none) (m : Message) :
      CanStamp (.ofFunction id) e m := by
    refine ⟨0, ?_⟩
    rw [he]
    rfl
  have hrelay (ttl : Int32) :
      IsRelay (.ofFunction id) (.inOrder 1) (news ttl)
        ((crowded.remember 7).2.dispatch (.ofFunction id) (.inOrder 1) (.data 3) (news ttl)).2
        (handled ttl) := by
    obtain ⟨_, _, _, hhandled⟩ := hall ttl
    obtain ⟨_, _, _, hrelay, _⟩ := hhandled (.data 3) rfl rfl List.not_mem_nil
    exact hrelay (Or.inl ⟨3, rfl⟩)
  obtain ⟨_, hspread, _⟩ := hall 3
  obtain ⟨flood, hflood, hchosen⟩ := hspread (by decide) (hcan crowded rfl _)
  refine ⟨hpeers, ⟨flood, hflood, hchosen.id, hchosen.nodup, hchosen.length⟩, ?_, ?_⟩
  · refine (hrelay 2).somebody.mpr ⟨hcan _ rfl _, by decide, by decide, ?_⟩
    rw [peers_dispatch_data]
    decide
  · by_contra hsome
    obtain ⟨_, hhops, _⟩ := (hrelay 1).somebody.mp hsome
    exact absurd hhops (by decide)

end Engine

end Rumor
