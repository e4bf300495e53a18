import Rumor.Proofs.Overlay

namespace Rumor.Overlay

variable {ι : Type} {H : Digest}

-- What a copy in flight has kept of the message that was originated, and what
-- each hop has put in anew.
structure Genuine (H : Digest) (o : Overlay ι) (f : Flight ι) (m : Message) : Prop where
  kind : f.send.message.kind = m.kind
  payload : f.send.message.payload = m.payload
  id : f.send.message.id = m.id
  sender : f.send.message.sender = (o.nodes f.sentBy).self
  hops : f.send.message.ttl.toInt = m.ttl.toInt - f.relayedBy.length
  alive : 1 ≤ f.send.message.ttl
  valid : Stamp.isValid H (o.nodes f.sentBy).settings.difficulty f.send.message = true

theorem Genuine.of_sameNodes {o o' : Overlay ι} {f : Flight ι} {m : Message} (h : Genuine H o f m)
    (hsame : SameNodes o o') : Genuine H o' f m := by
  obtain ⟨hself, hsettings⟩ := hsame f.sentBy
  exact { h with sender := h.sender.trans hself.symm, valid := hsettings ▸ h.valid }

-- A copy keeps what the message it is made of has kept.
theorem genuine_of_isCopy {o : Overlay ι} {e : Engine} {m origin : Message} {f : Flight ι}
    (hcopy : Engine.IsCopy H e m f.send) (hself : e.self = (o.nodes f.sentBy).self)
    (hsettings : e.settings = (o.nodes f.sentBy).settings) (hkind : m.kind = origin.kind)
    (hpayload : m.payload = origin.payload) (hid : m.id = origin.id)
    (hhops : m.ttl.toInt = origin.ttl.toInt - f.relayedBy.length) : Genuine H o f origin := by
  obtain ⟨nonce, hm⟩ := hcopy.message
  have hvalid := hcopy.valid
  rw [hsettings] at hvalid
  refine ⟨?_, ?_, ?_, ?_, ?_, ?_, hvalid⟩ <;> rw [hm]
  · exact hkind
  · exact hpayload
  · exact hid
  · exact hself
  · exact hhops
  · exact hcopy.hops

-- Every copy in flight goes back to a message that was originated.
def Intact (H : Digest) (o : Overlay ι) : Prop :=
  ∀ f ∈ o.flying, f.send.message.isFlooded = true →
    ∃ k m, f.origin = some k ∧ o.originated[k]? = some m ∧ Genuine H o f m

-- What is left in flight and what is new may be looked at apart.
theorem Intact.of_flying {o o' : Overlay ι} {rest new : Multiset (Flight ι)} (h : Intact H o)
    (hrest : rest ≤ o.flying) (hsame : SameNodes o o') (hlog : o.originated <+: o'.originated)
    (hflying : o'.flying = rest + new)
    (hnew : ∀ f ∈ new, f.send.message.isFlooded = true →
      ∃ k m, f.origin = some k ∧ o'.originated[k]? = some m ∧ Genuine H o' f m) : Intact H o' := by
  intro f hf hflood
  rw [hflying] at hf
  rcases Multiset.mem_add.mp hf with hold | hf
  · obtain ⟨k, m, hk, hm, hg⟩ := h f (Multiset.mem_of_le hrest hold) hflood
    obtain ⟨later, hlater⟩ := hlog
    obtain ⟨hlen, _⟩ := List.getElem?_eq_some_iff.mp hm
    refine ⟨k, m, hk, ?_, hg.of_sameNodes hsame⟩
    rw [← hlater, List.getElem?_append_left hlen]
    exact hm
  · exact hnew f hf hflood

variable [DecidableEq ι]

theorem Intact.delivery {o o' : Overlay ι} {event : Event ι} (h : Intact H o)
    (hd : Delivery H o event o') : Intact H o' := by
  have hsame := hd.sameNodes
  cases hd with
  | mk f rest i draw handled hflying htarget hhandle =>
      have hrest : rest ≤ o.flying := hflying ▸ Multiset.le_cons_self rest f
      refine h.of_flying hrest hsame (List.prefix_refl _) rfl ?_
      intro f' hf' hflood
      obtain ⟨send, hsend, rfl⟩ := List.mem_map.mp (Multiset.mem_coe.mp hf')
      subst hhandle
      rw [Flight.next_send] at hflood
      rcases (Engine.mem_handle_sends hsend).2 with ⟨_, hreply⟩ | ⟨hspreads, hcopy⟩
      · rw [Message.isFlooded, hreply] at hflood
        cases hflood
      · obtain ⟨k, origin, hk, horigin, hg⟩ :=
          h f (hflying ▸ Multiset.mem_cons_self f rest) hspreads
        obtain ⟨hsettings, hself⟩ := Engine.handle_frame H draw f.send.message (o.nodes i)
        have hpath : (f.next i send).relayedBy = f.relayedBy ++ [i] := if_pos hflood
        refine ⟨k, origin, hk, horigin, genuine_of_isCopy hcopy ?_ ?_ ?_ ?_ ?_ ?_⟩
        · rw [Flight.next_sentBy, act_nodes_self]
        · rw [Flight.next_sentBy, act_nodes_self]
        · rw [Engine.spend_kind, hg.kind]
        · rw [Engine.spend_payload, hg.payload]
        · rw [Engine.spend_id, hg.id]
        · have hlive := Engine.one_le_ttl_iff.mp hcopy.hops
          have hspent := Engine.spend_ttl_toInt f.send.message
          have hhops := hg.hops
          rw [hpath, List.length_append, List.length_singleton]
          omega

theorem Intact.step {o o' : Overlay ι} {event : Event ι} (h : Intact H o) (hs : Step H o event o') :
    Intact H o' := by
  have hsame := hs.sameNodes
  cases hs with
  | delivered hd => exact h.delivery hd
  | made i draw m result e hmade =>
      refine h.of_flying (le_refl _) hsame (List.prefix_append _ _) rfl ?_
      intro f hf _
      obtain ⟨send, hsend, rfl⟩ := List.mem_map.mp (Multiset.mem_coe.mp hf)
      obtain ⟨hresult, he⟩ := hmade.eq
      subst hresult he
      refine ⟨o.originated.length, m, rfl, List.getElem?_concat_length, ?_⟩
      refine genuine_of_isCopy (Engine.isCopy_of_mem_originate hsend) ?_ ?_ rfl rfl rfl
        (Int.sub_zero _).symm
      · rw [spread, act_nodes_self]
      · rw [spread, act_nodes_self]
  | refreshed i draw routes asked hasked =>
      refine h.of_flying (le_refl _) hsame (List.prefix_refl _) rfl ?_
      intro f hf hflood
      obtain ⟨send, hsend, rfl⟩ := List.mem_map.mp (Multiset.mem_coe.mp hf)
      subst hasked
      rw [Message.isFlooded, Engine.kind?_of_mem_refresh hsend] at hflood
      cases hflood
  | lost f rest hflying =>
      have hrest : rest ≤ o.flying := hflying ▸ Multiset.le_cons_self rest f
      refine h.of_flying hrest hsame (List.prefix_refl _) (Multiset.add_zero rest).symm ?_
      exact fun f hf => absurd hf (Multiset.notMem_zero f)
  | meanwhile i e hself hsettings =>
      refine h.of_flying (le_refl _) hsame (List.prefix_refl _) rfl ?_
      exact fun f hf => absurd hf (Multiset.notMem_zero f)

theorem intact_run {nodes : ι → Engine} {events : List (Event ι)} {o : Overlay ι}
    (run : Run (Step H) (quiet nodes) events o) : Intact H o :=
  run.invariant (fun f hf => absurd hf (Multiset.notMem_zero f)) fun _ _ _ h hs => h.step hs

-- A note that carries what some message of data was made with.
def Announced (o : Overlay ι) (note : Note) : Prop :=
  ∃ m ∈ o.originated, ∃ datatype, m.kind? = some (.data datatype) ∧
  note = ⟨m.id, datatype, m.payload⟩

omit [DecidableEq ι] in
theorem Announced.later {o o' : Overlay ι} {note : Note} (h : Announced o note)
    (hlog : o.originated <+: o'.originated) : Announced o' note := by
  obtain ⟨m, hm, hnote⟩ := h
  exact ⟨m, hlog.subset hm, hnote⟩

theorem Intact.notes {o o' : Overlay ι} {i : ι} {f : Flight ι} {before : Engine}
    {handled : Engine.Handled}
    (h : Intact H o) (hd : Delivery H o (.handled i f before handled) o') :
    ∃ new, handled.engine.notes.items = before.notes.items ++ new ∧
      ∀ note ∈ new, Announced o note := by
  cases hd with
  | mk _ rest _ draw _ hflying htarget hhandle =>
      subst hhandle
      obtain ⟨new, hitems, hnew⟩ := Engine.handle_notes H draw f.send.message (o.nodes i)
      refine ⟨new, hitems, fun note hnote => ?_⟩
      obtain ⟨datatype, hkind, rfl⟩ := hnew note hnote
      have hflood : f.send.message.isFlooded = true := by rw [Message.isFlooded, hkind]; rfl
      obtain ⟨k, m, _, hm, hg⟩ := h f (hflying ▸ Multiset.mem_cons_self f rest) hflood
      refine ⟨m, List.mem_of_getElem? hm, datatype, ?_, ?_⟩
      · rw [Message.kind?, ← hg.kind]
        exact hkind
      · rw [hg.id, hg.payload]

-- From end to end: whatever is made, delivered in any order or lost, a copy in
-- flight tells of a message that was originated, and so does every note.
theorem copies_and_notes_genuine {nodes : ι → Engine} {events : List (Event ι)} {o : Overlay ι}
    (run : Run (Step H) (quiet nodes) events o) :
    (∀ f ∈ o.flying, f.send.message.isFlooded = true →
      ∃ k m, f.origin = some k ∧ o.originated[k]? = some m ∧ Genuine H o f m) ∧
    ∀ i f before handled, .handled i f before handled ∈ events →
      ∃ new, handled.engine.notes.items = before.notes.items ++ new ∧
        ∀ note ∈ new, Announced o note := by
  refine ⟨intact_run run, ?_⟩
  induction run with
  | refl => exact fun _ _ _ _ h => by cases h
  | @step events o o' event run hs ih =>
      intro i f before handled hmem
      have hnoted : ∃ new, handled.engine.notes.items = before.notes.items ++ new ∧
          ∀ note ∈ new, Announced o note := by
        rcases List.mem_append.mp hmem with hold | hnew
        · exact ih i f before handled hold
        · obtain rfl := List.mem_singleton.mp hnew
          cases hs with
          | delivered hd => exact (intact_run run).notes hd
      obtain ⟨new, hitems, hnotes⟩ := hnoted
      exact ⟨new, hitems, fun note hnote => (hnotes note hnote).later hs.originated_grows⟩

-- The rumor comes back by the second node, which noted it.
theorem copies_and_notes_genuine_of_relay :
    ∃ events o, Run (Step (.ofFunction id)) (quiet pair) events o ∧
    homeward ∈ o.flying ∧ Genuine (.ofFunction id) o homeward rumor ∧ Announced o ⟨1, 0, []⟩ := by
  let H : Digest := .ofFunction id
  have run := (Run.refl.step (pair_made H)).step (.delivered (pair_delivery H))
  obtain ⟨hcopies, hnotes⟩ := copies_and_notes_genuine run
  have hflying : homeward ∈ relayed.flying := by simp [relayed]
  obtain ⟨k, m, hk, hm, hg⟩ := hcopies homeward hflying rfl
  obtain ⟨new, hitems, hnew⟩ := hnotes true outward (pair true) heard (by simp)
  have hk0 : k = 0 := (Option.some.inj hk).symm
  have hrumor : m = rumor := by
    subst hk0
    exact (Option.some.inj hm).symm
  have hnoted : (⟨1, 0, []⟩ : Note) ∈ new := by
    have hone : [⟨1, 0, []⟩] = new := hitems
    simp [← hone]
  exact ⟨_, relayed, run, hflying, hrumor ▸ hg, hnew _ hnoted⟩

end Rumor.Overlay
