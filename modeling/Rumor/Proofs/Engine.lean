import Rumor.Engine
import Rumor.Proofs.Cache
import Rumor.Proofs.Peers.Representation
import Rumor.Proofs.Queue
import Rumor.Proofs.Stamp

namespace Rumor

-- Leaves the peers in their order.
def Draw.inOrder (fresh : MessageId) : Draw where
  shuffle := id
  shuffle_perm := List.Perm.refl
  fresh := fresh
  pick := 0

-- Whether a message is of a kind that is relayed.
def Message.isFlooded (m : Message) : Bool :=
  m.kind?.any Engine.isFlooded

end Rumor

namespace Rumor.Engine

variable {H : Digest} {draw : Draw} {kind : Kind} {m : Message} {e : Engine}

theorem stamp_eq_ok {s : Message} (h : e.stamp H m = .ok s) :
    (∃ nonce, s = { m with nonce }) ∧ Stamp.isValid H e.settings.difficulty s = true := by
  unfold stamp at h
  split at h
  · rename_i stamped hs
    obtain rfl := Except.ok.inj h
    exact Stamp.stamp?_eq_some hs
  · cases h

theorem exists_stamp (h : ∀ m, (Stamp.stamp? H e.settings.difficulty m).isSome = true)
    (m : Message) : ∃ s, e.stamp H m = .ok s := by
  obtain ⟨s, hs⟩ := Option.isSome_iff_exists.mp (h m)
  exact ⟨s, by simp only [stamp, hs]⟩

-- With no work asked for, there always is a stamp.
theorem stamp_of_none (hd : e.settings.difficulty = .none) (m : Message) :
    e.stamp H m = .ok { m with nonce := 0 } := by
  rw [stamp, hd, Stamp.stamp?_none]

section Gossip

theorem flood_of_ttl_lt (h : m.ttl < 1) : e.flood H draw m = .ok ⟨.empty m.id, []⟩ := by
  rw [flood, if_pos h]

theorem flood_of_stamp {s : Message} (httl : 1 ≤ m.ttl)
    (hs : e.stamp H { m with sender := e.self } = .ok s) :
    let targets := (draw.shuffle e.peers.members).take e.settings.fanout
    e.flood H draw m = .ok ⟨⟨m.id, targets⟩, targets.map (⟨·, s⟩)⟩ := by
  rw [flood, if_neg (Int32.not_lt.mpr httl), hs]

theorem flood_of_error {error : PeerError} (httl : 1 ≤ m.ttl)
    (hs : e.stamp H { m with sender := e.self } = .error error) :
    e.flood H draw m = .error error := by
  rw [flood, if_neg (Int32.not_lt.mpr httl), hs]

-- Whoever is told of is sent to, and nobody else.
theorem targets_of_flood {flood : Flood} (h : e.flood H draw m = .ok flood) :
    flood.told.targets = flood.sends.map (·.target) := by
  by_cases httl : m.ttl < 1
  · rw [flood_of_ttl_lt httl] at h
    obtain rfl := Except.ok.inj h
    rfl
  · cases hs : e.stamp H { m with sender := e.self } with
    | error error =>
        rw [flood_of_error (Int32.not_lt.mp httl) hs] at h
        cases h
    | ok s =>
        rw [flood_of_stamp (Int32.not_lt.mp httl) hs] at h
        obtain rfl := Except.ok.inj h
        simp [Function.comp_def]

theorem gossip_of_flood {flood : Flood} (h : e.flood H draw m = .ok flood) :
    e.gossip H draw m = .ok flood.sends := by
  rw [gossip, h]
  rfl

theorem gossip_of_flood_error {error : PeerError} (h : e.flood H draw m = .error error) :
    e.gossip H draw m = .error error := by
  rw [gossip, h]
  rfl

theorem gossip_of_ttl_lt (h : m.ttl < 1) : e.gossip H draw m = .ok [] :=
  gossip_of_flood (flood_of_ttl_lt h)

theorem gossip_of_stamp {s : Message} (httl : 1 ≤ m.ttl)
    (hs : e.stamp H { m with sender := e.self } = .ok s) :
    e.gossip H draw m =
      .ok (((draw.shuffle e.peers.members).take e.settings.fanout).map (⟨·, s⟩)) :=
  gossip_of_flood (flood_of_stamp httl hs)

theorem gossip_unstamped (fresh : MessageId) (hd : e.settings.difficulty = .none)
    (httl : 1 ≤ m.ttl) :
    e.gossip H (.inOrder fresh) m =
      .ok ((e.peers.members.take e.settings.fanout).map
        (⟨·, { m with sender := e.self, nonce := 0 }⟩)) :=
  gossip_of_stamp httl (stamp_of_none hd _)

theorem gossip_eq_ok {sends : List Send} (h : e.gossip H draw m = .ok sends) :
    (m.ttl < 1 ∧ sends = []) ∨
      1 ≤ m.ttl ∧ ∃ s, e.stamp H { m with sender := e.self } = .ok s ∧
        sends = ((draw.shuffle e.peers.members).take e.settings.fanout).map (⟨·, s⟩) := by
  by_cases httl : m.ttl < 1
  · rw [gossip_of_ttl_lt httl] at h
    exact Or.inl ⟨httl, (Except.ok.inj h).symm⟩
  · refine Or.inr ⟨Int32.not_lt.mp httl, ?_⟩
    cases hs : e.stamp H { m with sender := e.self } with
    | error error =>
        rw [gossip_of_flood_error (flood_of_error (Int32.not_lt.mp httl) hs)] at h
        cases h
    | ok s =>
        rw [gossip_of_stamp (Int32.not_lt.mp httl) hs] at h
        exact ⟨s, rfl, (Except.ok.inj h).symm⟩

-- A copy of `m` in this node's name, handed over for one of its peers.
structure IsCopy (H : Digest) (e : Engine) (m : Message) (send : Send) : Prop where
  message : ∃ nonce, send.message = { m with sender := e.self, nonce }
  target : send.target ∈ e.peers.members
  valid : Stamp.isValid H e.settings.difficulty send.message = true
  hops : 1 ≤ m.ttl

theorem IsCopy.kind_eq {send : Send} (h : IsCopy H e m send) : send.message.kind = m.kind := by
  obtain ⟨nonce, hm⟩ := h.message
  rw [hm]

theorem IsCopy.ttl_eq {send : Send} (h : IsCopy H e m send) : send.message.ttl = m.ttl := by
  obtain ⟨nonce, hm⟩ := h.message
  rw [hm]

theorem IsCopy.id_eq {send : Send} (h : IsCopy H e m send) : send.message.id = m.id := by
  obtain ⟨nonce, hm⟩ := h.message
  rw [hm]

theorem isCopy_of_mem_gossip {sends : List Send} (h : e.gossip H draw m = .ok sends) {send : Send}
    (hmem : send ∈ sends) : IsCopy H e m send := by
  rcases gossip_eq_ok h with ⟨_, rfl⟩ | ⟨httl, s, hs, rfl⟩
  · cases hmem
  · obtain ⟨⟨nonce, hm⟩, hvalid⟩ := stamp_eq_ok hs
    obtain ⟨target, htarget, rfl⟩ := List.mem_map.mp hmem
    exact ⟨⟨nonce, hm⟩, (draw.shuffle_perm _).mem_iff.mp (List.mem_of_mem_take htarget),
      hvalid, httl⟩

theorem length_gossip_le {sends : List Send} (h : e.gossip H draw m = .ok sends) :
    sends.length ≤ e.settings.fanout := by
  rcases gossip_eq_ok h with ⟨_, rfl⟩ | ⟨_, s, _, rfl⟩
  · exact Nat.zero_le _
  · rw [List.length_map, List.length_take]
    exact Nat.min_le_left _ _

theorem isCopy_of_mem_originate {send : Send}
    (h : send ∈ (e.originate H draw m).1.toOption.getD []) :
    IsCopy H (e.originate H draw m).2 m send := by
  cases hgossip : (e.remember m.id).2.gossip H draw m with
  | error error => simp [originate, hgossip, Except.toOption] at h
  | ok sends =>
      simp only [originate, hgossip] at h
      exact isCopy_of_mem_gossip hgossip h

-- A node that may send as often as it has peers reaches all of them.
theorem exists_gossip_to_all (draw : Draw) (httl : 1 ≤ m.ttl)
    (hfanout : e.peers.members.length ≤ e.settings.fanout)
    (hstamp : ∀ m, (Stamp.stamp? H e.settings.difficulty m).isSome = true) :
    ∃ sends, e.gossip H draw m = .ok sends ∧ ∀ peer ∈ e.peers.members, ∃ send ∈ sends,
      send.target = peer := by
  obtain ⟨s, hs⟩ := exists_stamp hstamp { m with sender := e.self }
  refine ⟨_, gossip_of_stamp httl hs, fun peer hpeer => ⟨⟨peer, s⟩, ?_, rfl⟩⟩
  have hperm := draw.shuffle_perm e.peers.members
  rw [List.take_of_length_le (hperm.length_eq ▸ hfanout)]
  exact List.mem_map.mpr ⟨peer, hperm.mem_iff.mpr hpeer, rfl⟩

theorem exists_originate_to_all (draw : Draw) (httl : 1 ≤ m.ttl)
    (hfanout : e.peers.members.length ≤ e.settings.fanout)
    (hstamp : ∀ m, (Stamp.stamp? H e.settings.difficulty m).isSome = true) :
    ∀ peer ∈ e.peers.members, ∃ send ∈ (e.originate H draw m).1.toOption.getD [],
      send.target = peer := by
  obtain ⟨sends, hgossip, hall⟩ :=
    exists_gossip_to_all (e := (e.remember m.id).2) draw httl hfanout hstamp
  simp only [originate, hgossip]
  exact hall

end Gossip

section Spend

-- Nothing but the hops of a message changes.
theorem spend_rest (m : Message) : spend m = { m with ttl := (spend m).ttl } := by
  unfold spend
  split <;> rfl

@[simp] theorem spend_kind (m : Message) : (spend m).kind = m.kind := by rw [spend_rest]

@[simp] theorem spend_payload (m : Message) : (spend m).payload = m.payload := by rw [spend_rest]

@[simp] theorem spend_id (m : Message) : (spend m).id = m.id := by rw [spend_rest]

theorem one_le_ttl_iff : 1 ≤ m.ttl ↔ 1 ≤ m.ttl.toInt := by
  rw [Int32.le_iff_toInt_le]
  rfl

-- The hops of a message go down by one, to the least number at most.
theorem spend_ttl_toInt (m : Message) :
    (spend m).ttl.toInt = max (m.ttl.toInt - 1) (-2147483648) := by
  have hle : -2147483648 ≤ m.ttl.toInt := m.ttl.le_toInt
  have hlt : m.ttl.toInt < 2147483648 := m.ttl.toInt_lt
  by_cases hmin : m.ttl = Int32.minValue
  · have hleast : m.ttl.toInt = -2147483648 := by rw [hmin]; rfl
    rw [spend, if_pos hmin, hleast]
    rfl
  · have hne : m.ttl.toInt ≠ -2147483648 := fun he => hmin (Int32.toInt_inj.mp he)
    rw [spend, if_neg hmin, Int32.toInt_sub, Int32.toInt_one,
      Int.bmod_eq_of_le (by omega) (by omega)]
    omega

end Spend

section Refresh

theorem refresh_frame (H : Digest) (draw : Draw) (routes : String → Route) (e : Engine) :
    (e.refresh H draw routes).engine.self = e.self ∧
    (e.refresh H draw routes).engine.settings = e.settings := by
  unfold refresh
  split
  · exact ⟨rfl, rfl⟩
  · unfold requestList
    dsimp only
    split <;> exact ⟨rfl, rfl⟩

theorem mem_refresh {routes : String → Route} {send : Send}
    (h : send ∈ (e.refresh H draw routes).sends) :
    (∃ nonce, send.message = { Message.listRequest draw.fresh e.self with nonce }) ∧
      Stamp.isValid H e.settings.difficulty send.message = true := by
  unfold refresh requestList at h
  dsimp only at h
  split at h
  · cases h
  · split at h
    · cases h
    · rename_i s hs
      rw [List.mem_singleton] at h
      subst h
      exact stamp_eq_ok hs

theorem kind?_of_mem_refresh {routes : String → Route} {send : Send}
    (h : send ∈ (e.refresh H draw routes).sends) : send.message.kind? = some .listRequest := by
  obtain ⟨⟨nonce, hm⟩, _⟩ := mem_refresh h
  rw [hm]
  rfl

end Refresh

section Dispatch

theorem deliver_eq (datatype : UInt16) (m : Message) (e : Engine) :
    ∃ notes new, e.deliver datatype m = { e with notes } ∧ notes.items = e.notes.items ++ new ∧
      ∀ note ∈ new, note = ⟨m.id, datatype, m.payload⟩ := by
  unfold deliver
  split
  · rw [Queue.offer_snd]
    split
    · exact ⟨_, [⟨m.id, datatype, m.payload⟩], rfl, rfl, by simp⟩
    · exact ⟨_, [], rfl, (List.append_nil _).symm, by simp⟩
  · exact ⟨e.notes, [], rfl, (List.append_nil _).symm, by simp⟩

-- A message is passed on to subscribers, is answered, or does something to the peers, which
-- is made up of what can be done to them. None tells of seeds.
theorem dispatch_cases (H : Digest) (draw : Draw) (kind : Kind) (m : Message) (e : Engine) :
    (∃ datatype, kind = .data datatype ∧ e.dispatch H draw kind m = ([], e.deliver datatype m)) ∨
    (kind = .listRequest ∧ e.dispatch H draw kind m = e.onListRequest H draw m) ∨
    ∃ ops, (∀ op ∈ ops, op.isOnMembers = true) ∧
      e.dispatch H draw kind m = ([], { e with peers := e.peers.after ops }) := by
  have hnone : ∀ op ∈ ([] : List Peers.Op), op.isOnMembers = true := by simp
  cases kind with
  | data datatype => exact Or.inl ⟨datatype, rfl, rfl⟩
  | listRequest => exact Or.inr (Or.inl ⟨rfl, rfl⟩)
  | join =>
      refine Or.inr (Or.inr ?_)
      simp only [dispatch, onJoin]
      split
      · exact ⟨[], hnone, rfl⟩
      · rename_i address _
        split
        · exact ⟨[], hnone, rfl⟩
        · exact ⟨[.add address, .bound], by simp [Peers.Op.isOnMembers], rfl⟩
  | leave =>
      refine Or.inr (Or.inr ?_)
      simp only [dispatch, onLeave]
      split
      · exact ⟨[], hnone, rfl⟩
      · rename_i address _
        exact ⟨[.remove address], by simp [Peers.Op.isOnMembers], rfl⟩
  | listResponse =>
      refine Or.inr (Or.inr ?_)
      simp only [dispatch, onListResponse]
      split
      · exact ⟨[], hnone, rfl⟩
      · rename_i list _
        exact ⟨[.merge list, .bound], by simp [Peers.Op.isOnMembers], rfl⟩

-- Either nobody is to be answered or the answer's id is remembered, whether or
-- not it can be stamped.
theorem onListRequest_cases (H : Digest) (draw : Draw) (m : Message) (e : Engine) :
    e.onListRequest H draw m = ([], e) ∨
      let reply := Message.listResponse draw.fresh e.self e.peers.members
      ∃ sends, e.onListRequest H draw m = (sends, (e.remember reply.id).2) ∧
        (sends = [] ∨ ∃ nonce, sends = [⟨m.sender, { reply with nonce }⟩]) := by
  unfold onListRequest
  split
  · exact Or.inl rfl
  · refine Or.inr ?_
    dsimp only
    split
    · exact ⟨_, rfl, Or.inl rfl⟩
    · rename_i s hs
      obtain ⟨⟨nonce, rfl⟩, _⟩ := stamp_eq_ok hs
      exact ⟨_, rfl, Or.inr ⟨nonce, rfl⟩⟩

-- The answer to the list request `m`, under the id `fresh`.
structure IsReply (H : Digest) (e : Engine) (fresh : MessageId) (m : Message) (send : Send) :
    Prop where
  message : ∃ nonce, send.message = { Message.listResponse fresh e.self e.peers.members with nonce }
  target : send.target = m.sender
  valid : Stamp.isValid H e.settings.difficulty send.message = true

theorem IsReply.kind?_eq {fresh : MessageId} {send : Send} (h : IsReply H e fresh m send) :
    send.message.kind? = some .listResponse := by
  obtain ⟨nonce, hm⟩ := h.message
  rw [hm]
  rfl

theorem isReply_of_mem_onListRequest {send : Send} (h : send ∈ (e.onListRequest H draw m).1) :
    IsReply H e draw.fresh m send := by
  unfold onListRequest at h
  split at h
  · cases h
  · dsimp only at h
    split at h
    · cases h
    · rename_i s hs
      obtain ⟨hmessage, hvalid⟩ := stamp_eq_ok hs
      rw [List.mem_singleton] at h
      subst h
      exact ⟨hmessage, rfl, hvalid⟩

theorem remember_fst_of_notMem {id : MessageId} (h : id ∉ e.cache.ids) :
    (e.remember id).1 = true :=
  (Cache.insert_fst_eq_true_iff _ _).mpr h

theorem remember_of_notMem {id : MessageId} (h : id ∉ e.cache.ids) :
    e.remember id = (true, (e.remember id).2) :=
  Prod.ext (remember_fst_of_notMem h) rfl

@[simp] theorem remember_settings (e : Engine) (id : MessageId) :
    (e.remember id).2.settings = e.settings := rfl

@[simp] theorem remember_self (e : Engine) (id : MessageId) : (e.remember id).2.self = e.self := rfl

@[simp] theorem remember_peers (e : Engine) (id : MessageId) : (e.remember id).2.peers = e.peers :=
  rfl

@[simp] theorem remember_notes (e : Engine) (id : MessageId) : (e.remember id).2.notes = e.notes :=
  rfl

-- What a dispatch leaves as it was.
theorem dispatch_frame (H : Digest) (draw : Draw) (kind : Kind) (m : Message) (e : Engine) :
    (e.dispatch H draw kind m).2.settings = e.settings ∧
    (e.dispatch H draw kind m).2.self = e.self := by
  obtain ⟨datatype, _, h⟩ | ⟨_, h⟩ | ⟨ops, _, h⟩ := dispatch_cases H draw kind m e
  · obtain ⟨notes, new, he, _⟩ := deliver_eq datatype m e
    rw [h, he]
    exact ⟨rfl, rfl⟩
  · rw [h]
    rcases onListRequest_cases H draw m e with he | ⟨sends, he, _⟩ <;> rw [he] <;> exact ⟨rfl, rfl⟩
  · rw [h]
    exact ⟨rfl, Peers.after_self _ ops⟩

-- Only a list request is answered, with one list of peers at most.
theorem dispatch_replies (H : Digest) (draw : Draw) (kind : Kind) (m : Message) (e : Engine) :
    (e.dispatch H draw kind m).1 = [] ∨ kind = .listRequest ∧
      ∃ reply, (e.dispatch H draw kind m).1 = [⟨m.sender, reply⟩] ∧
        reply.kind? = some .listResponse := by
  cases kind with
  | listRequest =>
      rcases onListRequest_cases H draw m e with he | ⟨sends, he, rfl | ⟨nonce, rfl⟩⟩
      · exact Or.inl (by simp [dispatch, he])
      · exact Or.inl (by simp [dispatch, he])
      · exact Or.inr ⟨rfl, _, by simp only [dispatch, he]; rfl, rfl⟩
  | _ => exact Or.inl rfl

theorem isReply_of_mem_dispatch {send : Send} (h : send ∈ (e.dispatch H draw kind m).1) :
    kind = .listRequest ∧ IsReply H e draw.fresh m send := by
  cases kind with
  | listRequest => exact ⟨rfl, isReply_of_mem_onListRequest h⟩
  | _ => cases h

-- Only data is passed on to subscribers, and as it came.
theorem dispatch_notes (H : Digest) (draw : Draw) (kind : Kind) (m : Message) (e : Engine) :
    ∃ new, (e.dispatch H draw kind m).2.notes.items = e.notes.items ++ new ∧
      ∀ note ∈ new, ∃ datatype, kind = .data datatype ∧ note = ⟨m.id, datatype, m.payload⟩ := by
  obtain ⟨datatype, hkind, h⟩ | ⟨_, h⟩ | ⟨ops, _, h⟩ := dispatch_cases H draw kind m e
  · obtain ⟨notes, new, he, hitems, hnew⟩ := deliver_eq datatype m e
    rw [h, he]
    exact ⟨new, hitems, fun note hnote => ⟨datatype, hkind, hnew note hnote⟩⟩
  · refine ⟨[], ?_, by simp⟩
    rw [h, List.append_nil]
    rcases onListRequest_cases H draw m e with he | ⟨sends, he, _⟩ <;> simp [he]
  · rw [h]
    exact ⟨[], (List.append_nil _).symm, by simp⟩

theorem dispatch_data (H : Digest) (draw : Draw) (datatype : UInt16) (m : Message) (e : Engine) :
    ∃ notes, e.dispatch H draw (.data datatype) m = ([], { e with notes }) := by
  obtain ⟨notes, new, he, _⟩ := deliver_eq datatype m e
  exact ⟨notes, by simp only [dispatch, he]⟩

-- Whoever asks is answered, if there is a stamp for the answer.
theorem onListRequest_of_stamp {reply : Message} (hsender : m.sender ≠ "")
    (hself : m.sender ≠ e.self)
    (hs : e.stamp H (.listResponse draw.fresh e.self e.peers.members) = .ok reply) :
    e.onListRequest H draw m = ([⟨m.sender, reply⟩], (e.remember draw.fresh).2) := by
  have hstamp :
      (e.remember draw.fresh).2.stamp H (.listResponse draw.fresh e.self e.peers.members) =
        .ok reply := hs
  unfold onListRequest
  rw [if_neg (by simp [hsender, hself])]
  simp only [show (Message.listResponse draw.fresh e.self e.peers.members).id = draw.fresh from rfl, hstamp]

end Dispatch

section Handle

-- What relaying a message of `kind` sends.
def relays (H : Digest) (draw : Draw) (kind : Kind) (m : Message) (e : Engine) : List Send :=
  if isFlooded kind then (e.gossip H draw (spend m)).toOption.getD [] else []

theorem mem_relays {send : Send} (h : send ∈ relays H draw kind m e) :
    isFlooded kind = true ∧ IsCopy H e (spend m) send := by
  by_cases hflood : isFlooded kind = true
  · rw [relays, if_pos hflood] at h
    cases hgossip : e.gossip H draw (spend m) with
    | error error => simp [hgossip, Except.toOption] at h
    | ok sends =>
        rw [hgossip] at h
        exact ⟨hflood, isCopy_of_mem_gossip hgossip h⟩
  · simp [relays, hflood] at h

theorem exists_relay_to_all (draw : Draw) (hflood : isFlooded kind = true)
    (httl : 1 ≤ (spend m).ttl) (hfanout : e.peers.members.length ≤ e.settings.fanout)
    (hstamp : ∀ m, (Stamp.stamp? H e.settings.difficulty m).isSome = true) :
    ∀ peer ∈ e.peers.members, ∃ send ∈ relays H draw kind m e, send.target = peer := by
  obtain ⟨sends, hgossip, hall⟩ := exists_gossip_to_all draw httl hfanout hstamp
  rw [relays, if_pos hflood, hgossip]
  exact hall

theorem length_relays_le (H : Digest) (draw : Draw) (kind : Kind) (m : Message) (e : Engine) :
    (relays H draw kind m e).length ≤ e.settings.fanout := by
  unfold relays
  split
  · cases hgossip : e.gossip H draw (spend m) with
    | error error => exact Nat.zero_le _
    | ok sends => exact length_gossip_le hgossip
  · exact Nat.zero_le _

-- A message is dropped, and nothing changes, or it is dispatched and relayed.
theorem handle_cases (H : Digest) (draw : Draw) (m : Message) (e : Engine) :
    ((Stamp.isValid H e.settings.difficulty m = false ∨ m.kind? = none ∨ m.id ∈ e.cache.ids) ∧
      ∃ outcome, e.handle H draw m = ⟨outcome, [], e⟩ ∧ ∀ targets, outcome ≠ .processed targets) ∨
    ∃ kind, Stamp.isValid H e.settings.difficulty m = true ∧ m.kind? = some kind ∧
      m.id ∉ e.cache.ids ∧
      let after := (e.remember m.id).2.dispatch H draw kind m
      e.handle H draw m = ⟨.processed ((relays H draw kind m after.2).map (·.target)),
        after.1 ++ relays H draw kind m after.2, after.2⟩ := by
  unfold handle
  cases hvalid : Stamp.isValid H e.settings.difficulty m with
  | false => exact Or.inl ⟨Or.inl rfl, _, rfl, fun _ h => by cases h⟩
  | true =>
      cases hkind : m.kind? with
      | none => exact Or.inl ⟨Or.inr (Or.inl rfl), _, rfl, fun _ h => by cases h⟩
      | some kind =>
          by_cases hid : m.id ∈ e.cache.ids
          · have hr : e.remember m.id = (false, e) := by rw [remember, Cache.insert_of_mem hid]
            rw [hr]
            exact Or.inl ⟨Or.inr (Or.inr hid), _, rfl, fun _ h => by cases h⟩
          · refine Or.inr ⟨kind, rfl, rfl, hid, ?_⟩
            rw [remember_of_notMem hid]
            unfold relays
            cases hflood : isFlooded kind with
            | false => simp [hflood]
            | true =>
                cases hspread :
                  ((e.remember m.id).2.dispatch H draw kind m).2.flood H draw (spend m) with
                | error error =>
                    simp [hflood, hspread, gossip_of_flood_error hspread, Except.toOption]
                | ok relays =>
                    simp [hflood, hspread, gossip_of_flood hspread, targets_of_flood hspread,
                      Except.toOption]

theorem handle_of_new (draw : Draw) (hvalid : Stamp.isValid H e.settings.difficulty m = true)
    (hkind : m.kind? = some kind) (hid : m.id ∉ e.cache.ids) :
    let after := (e.remember m.id).2.dispatch H draw kind m
    e.handle H draw m = ⟨.processed ((relays H draw kind m after.2).map (·.target)),
      after.1 ++ relays H draw kind m after.2, after.2⟩ := by
  rcases handle_cases H draw m e with ⟨hdrop, _⟩ | ⟨kind', _, hkind', _, he⟩
  · rcases hdrop with h | h | h
    · rw [hvalid] at h
      cases h
    · rw [hkind] at h
      cases h
    · exact absurd h hid
  · rw [hkind] at hkind'
    obtain rfl := Option.some.inj hkind'
    exact he

theorem handle_listRequest {reply : Message}
    (hvalid : Stamp.isValid H e.settings.difficulty m = true)
    (hkind : m.kind? = some .listRequest) (hid : m.id ∉ e.cache.ids) (hsender : m.sender ≠ "")
    (hself : m.sender ≠ e.self)
    (hs : e.stamp H (.listResponse draw.fresh e.self e.peers.members) = .ok reply) :
    e.handle H draw m =
      ⟨.processed [], [⟨m.sender, reply⟩], ((e.remember m.id).2.remember draw.fresh).2⟩ := by
  have hreply := onListRequest_of_stamp (e := (e.remember m.id).2) hsender hself hs
  rw [handle_of_new draw hvalid hkind hid]
  simp [relays, isFlooded, dispatch, hreply]

-- Who is nobody, or the node itself, gets no list.
theorem handle_listRequest_unanswered (draw : Draw)
    (hvalid : Stamp.isValid H e.settings.difficulty m = true)
    (hkind : m.kind? = some .listRequest) (hid : m.id ∉ e.cache.ids)
    (hsender : m.sender = "" ∨ m.sender = e.self) :
    e.handle H draw m = ⟨.processed [], [], (e.remember m.id).2⟩ := by
  have hnobody : (e.remember m.id).2.onListRequest H draw m = ([], (e.remember m.id).2) :=
    if_pos hsender
  rw [handle_of_new draw hvalid hkind hid]
  simp [relays, isFlooded, dispatch, hnobody]

theorem handle_listRequest_unstamped (hd : e.settings.difficulty = .none) {id : MessageId}
    {sender : String} (hid : id ∉ e.cache.ids) (hsender : sender ≠ "") (hself : sender ≠ e.self) :
    (e.handle H draw (.listRequest id sender)).sends =
      [⟨sender, { Message.listResponse draw.fresh e.self e.peers.members with nonce := 0 }⟩] := by
  have hvalid : Stamp.isValid H e.settings.difficulty (.listRequest id sender) = true := by
    rw [hd]
    rfl
  rw [handle_listRequest hvalid rfl hid hsender hself (stamp_of_none hd _)]
  rfl

theorem handle_listResponse {list : List String} (draw : Draw)
    (hvalid : Stamp.isValid H e.settings.difficulty m = true) (hkind : m.kind? = some .listResponse)
    (hid : m.id ∉ e.cache.ids) (hlist : m.addresses = .ok list) :
    e.handle H draw m =
      ⟨.processed [], [],
        { (e.remember m.id).2 with peers := (e.peers.merge list).2.bound.2 }⟩ := by
  rw [handle_of_new draw hvalid hkind hid]
  simp [relays, isFlooded, dispatch, onListResponse, hlist]

theorem handle_of_known (draw : Draw) (hvalid : Stamp.isValid H e.settings.difficulty m = true)
    (hkind : m.kind? = some kind) (hid : m.id ∈ e.cache.ids) :
    e.handle H draw m = ⟨.duplicate, [], e⟩ := by
  have hr : e.remember m.id = (false, e) := by rw [remember, Cache.insert_of_mem hid]
  simp only [handle, hvalid, hkind, hr]
  rfl

-- What becomes of data that is new to a node.
structure TakesIn (H : Digest) (draw : Draw) (datatype : UInt16) (m : Message) (e : Engine)
    (h : Handled) : Prop where
  outcome : h.outcome = .processed (h.sends.map (·.target))
  sends : h.sends = relays H draw (.data datatype) m h.engine
  peers : h.engine.peers = e.peers
  settings : h.engine.settings = e.settings
  cache : h.engine.cache = (e.cache.insert m.id).2

theorem takesIn_of_new (draw : Draw) {datatype : UInt16}
    (hvalid : Stamp.isValid H e.settings.difficulty m = true)
    (hkind : m.kind? = some (.data datatype)) (hid : m.id ∉ e.cache.ids) :
    TakesIn H draw datatype m e (e.handle H draw m) := by
  obtain ⟨notes, hdispatch⟩ := dispatch_data H draw datatype m (e.remember m.id).2
  have hnew := handle_of_new draw hvalid hkind hid
  simp only [hdispatch, List.nil_append] at hnew
  rw [hnew]
  exact ⟨rfl, rfl, rfl, rfl, rfl⟩

theorem handle_frame (H : Digest) (draw : Draw) (m : Message) (e : Engine) :
    (e.handle H draw m).engine.settings = e.settings ∧
    (e.handle H draw m).engine.self = e.self := by
  rcases handle_cases H draw m e with ⟨_, outcome, he, _⟩ | ⟨kind, _, _, _, he⟩
  · rw [he]
    exact ⟨rfl, rfl⟩
  · rw [he]
    exact dispatch_frame H draw kind m (e.remember m.id).2

theorem mem_handle_cases {send : Send} (h : send ∈ (e.handle H draw m).sends) :
    Stamp.isValid H e.settings.difficulty m = true ∧
      (m.kind? = some .listRequest ∧ IsReply H e draw.fresh m send ∨
        m.isFlooded = true ∧ IsCopy H (e.handle H draw m).engine (spend m) send) := by
  rcases handle_cases H draw m e with ⟨_, outcome, he, _⟩ | ⟨kind, hvalid, hkind, _, he⟩
  · rw [he] at h
    cases h
  · rw [he] at h ⊢
    refine ⟨hvalid, ?_⟩
    rcases List.mem_append.mp h with hreply | hrelay
    · obtain ⟨rfl, hr⟩ := isReply_of_mem_dispatch hreply
      exact Or.inl ⟨hkind, hr.message, hr.target, hr.valid⟩
    · obtain ⟨hflood, hcopy⟩ := mem_relays hrelay
      exact Or.inr ⟨by simpa [Message.isFlooded, hkind] using hflood, hcopy⟩

-- Either `m` asks for a list and is answered, or it is handed on.
theorem mem_handle_sends {send : Send} (h : send ∈ (e.handle H draw m).sends) :
    Stamp.isValid H e.settings.difficulty m = true ∧
      (m.kind? = some .listRequest ∧ send.message.kind? = some .listResponse ∨
        m.isFlooded = true ∧ IsCopy H (e.handle H draw m).engine (spend m) send) := by
  obtain ⟨hvalid, ⟨hkind, hreply⟩ | hrelay⟩ := mem_handle_cases h
  · exact ⟨hvalid, Or.inl ⟨hkind, hreply.kind?_eq⟩⟩
  · exact ⟨hvalid, Or.inr hrelay⟩

theorem handle_notes (H : Digest) (draw : Draw) (m : Message) (e : Engine) :
    ∃ new, (e.handle H draw m).engine.notes.items = e.notes.items ++ new ∧
      ∀ note ∈ new, ∃ datatype, m.kind? = some (.data datatype) ∧
        note = ⟨m.id, datatype, m.payload⟩ := by
  rcases handle_cases H draw m e with ⟨_, outcome, he, _⟩ | ⟨kind, _, hkind, _, he⟩
  · exact ⟨[], by rw [he, List.append_nil], fun _ h => by cases h⟩
  · obtain ⟨new, hitems, hnew⟩ := dispatch_notes H draw kind m (e.remember m.id).2
    refine ⟨new, by rw [he]; exact hitems, fun note hnote => ?_⟩
    obtain ⟨datatype, rfl, hn⟩ := hnew note hnote
    exact ⟨datatype, hkind, hn⟩

end Handle

end Rumor.Engine
