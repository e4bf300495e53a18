import Mathlib.Data.Fintype.Card
import Mathlib.Logic.Relation
import Rumor.Proofs.Overlay

namespace Rumor

def Outcome.isProcessed : Outcome → Bool
  | .processed _ => true
  | _ => false

theorem Outcome.isProcessed_eq_false {outcome : Outcome}
    (h : ∀ targets, outcome ≠ .processed targets) : outcome.isProcessed = false := by
  cases outcome with
  | processed targets => exact absurd rfl (h targets)
  | _ => rfl

namespace Overlay

variable {ι : Type} {H : Digest} {d : Difficulty} {m : Message} {datatype : UInt16} {draw : Draw}
  {e : Engine} {handled : Engine.Handled} {result : Except PeerError (List Send)} {o o' : Overlay ι}
  {start i : ι}
  {events : List (Event ι)} {known : Finset ι} {f : Flight ι} {rest : Multiset (Flight ι)}

def Knows (o : Overlay ι) (i j : ι) : Prop :=
  (o.nodes j).self ∈ (o.nodes i).peers.members

-- What holds before a message with id `x` is made.
structure Ready (d : Difficulty) (x : MessageId) (o : Overlay ι) : Prop where
  apart : ∀ i j, (o.nodes i).self = (o.nodes j).self → i = j
  alike : ∀ i, (o.nodes i).settings.difficulty = d
  closed : ∀ i, ∀ address ∈ (o.nodes i).peers.members, ∃ j, (o.nodes j).self = address
  fanout : ∀ i, (o.nodes i).peers.members.length ≤ (o.nodes i).settings.fanout
  room : ∀ i, (o.nodes i).cache.capacity = max (o.nodes i).settings.cacheSize 1
  fresh : ∀ i, x ∉ (o.nodes i).cache.ids
  calm : o.flying = 0

-- A copy of `m` on its way. Each hop it lacks is a node that knows of `m`.
structure EnRoute (H : Digest) (d : Difficulty) (m : Message) (o : Overlay ι) (known : Finset ι)
    (f : Flight ι) : Prop where
  kind : f.send.message.kind = m.kind
  id : f.send.message.id = m.id
  valid : Stamp.isValid H d f.send.message = true
  sender : f.sentBy ∈ known
  target : f.send.target ∈ (o.nodes f.sentBy).peers.members
  hops : m.ttl.toInt + 1 ≤ f.send.message.ttl.toInt + known.card

theorem EnRoute.mono {known' : Finset ι} (h : EnRoute H d m o known f) (hsub : known ⊆ known') :
    EnRoute H d m o known' f := by
  have hcard := Finset.card_le_card hsub
  have hhops := h.hops
  exact { h with sender := hsub h.sender, hops := by omega }

theorem EnRoute.of_isCopy {m' : Message} (hcopy : Engine.IsCopy H e m' f.send)
    (hkind : m'.kind = m.kind) (hid : m'.id = m.id) (hdifficulty : e.settings.difficulty = d)
    (hpeers : e.peers = (o.nodes f.sentBy).peers)
    (hknown : f.sentBy ∈ known) (hhops : m.ttl.toInt + 1 ≤ m'.ttl.toInt + known.card) :
    EnRoute H d m o known f where
  kind := hcopy.kind_eq.trans hkind
  id := hcopy.id_eq.trans hid
  valid := hdifficulty ▸ hcopy.valid
  sender := hknown
  target := hpeers ▸ hcopy.target
  hops := by
    rw [hcopy.ttl_eq]
    exact hhops

variable [DecidableEq ι]

-- The copies that a node sends on have one hop less, and one node more knows of `m`.
theorem EnRoute.relay (hcopy : EnRoute H d m o known f) (hnew : i ∉ known)
    (hdifficulty : e.settings.difficulty = d) (hpeers : e.peers = (o.nodes i).peers) {send : Send}
    (hrelay : Engine.IsCopy H e (Engine.spend f.send.message) send) :
    EnRoute H d m o (insert i known) (f.next i send) := by
  have hlive := Engine.one_le_ttl_iff.mp hrelay.hops
  have hspent := Engine.spend_ttl_toInt f.send.message
  have hhops := hcopy.hops
  refine EnRoute.of_isCopy hrelay ?_ ?_ hdifficulty hpeers (Finset.mem_insert_self _ _) ?_
  · rw [Engine.spend_kind, hcopy.kind]
  · rw [Engine.spend_id, hcopy.id]
  · rw [Finset.card_insert_of_notMem hnew]
    omega

-- Whether node `i` took `x` for new and passed it on.
def Event.processes (i : ι) (x : MessageId) : Event ι → Bool
  | .handled j f _ h => j = i && f.send.message.id = x && h.outcome.isProcessed
  | _ => false

variable [Fintype ι]

-- A copy whose hops are used up has gone by all nodes but its addressee.
theorem EnRoute.insert_eq_univ (hcopy : EnRoute H d m o known f) (hnew : i ∉ known)
    (hwide : (Fintype.card ι : Int) ≤ m.ttl.toInt + 1)
    (hspent : ¬ 1 ≤ (Engine.spend f.send.message).ttl) : insert i known = Finset.univ := by
  have hhops := hcopy.hops
  have hle := Finset.card_le_univ (insert i known)
  rw [Engine.one_le_ttl_iff, Engine.spend_ttl_toInt] at hspent
  rw [Finset.card_insert_of_notMem hnew] at hle
  refine Finset.eq_univ_of_card _ ?_
  rw [Finset.card_insert_of_notMem hnew]
  omega

-- The nodes that know of `x`.
def informed (x : MessageId) (o : Overlay ι) : Finset ι :=
  Finset.univ.filter fun i => x ∈ (o.nodes i).cache.ids

omit [DecidableEq ι] in
theorem mem_informed {x : MessageId} {o : Overlay ι} {i : ι} :
    i ∈ informed x o ↔ x ∈ (o.nodes i).cache.ids := by
  simp [informed]

theorem informed_act {x : MessageId} (o : Overlay ι) (i : ι) {e : Engine}
    (flights : List (Flight ι))
    (he : x ∈ e.cache.ids) : informed x (o.act i e flights) = insert i (informed x o) := by
  ext j
  rw [Finset.mem_insert, mem_informed, mem_informed, act_nodes]
  by_cases hj : j = i
  · simp [hj, he]
  · simp [hj]

-- The state of a flood that began at `start` in `o`.
structure Flooding (H : Digest) (d : Difficulty) (m : Message) (o : Overlay ι) (start : ι)
    (events : List (Event ι)) (o' : Overlay ι) : Prop where
  same : SameNodes o o'
  peers : ∀ i, (o'.nodes i).peers = (o.nodes i).peers
  room : ∀ i, 1 ≤ (o'.nodes i).cache.capacity
  start_mem : start ∈ informed m.id o'
  reached : ∀ i ∈ informed m.id o', Relation.ReflTransGen o.Knows start i
  copies : ∀ f ∈ o'.flying, EnRoute H d m o (informed m.id o') f
  frontier : informed m.id o' = Finset.univ ∨ ∀ i ∈ informed m.id o', ∀ j, o.Knows i j →
    j ∈ informed m.id o' ∨ ∃ f ∈ o'.flying, f.send.target = (o.nodes j).self
  counts : ∀ i,
    events.countP (Event.processes i m.id) = if i ≠ start ∧ i ∈ informed m.id o' then 1 else 0

-- A copy that has arrived leaves no peer out but its addressee.
theorem Flooding.frontier_rest (h : Flooding H d m o start events o') (hready : Ready d m.id o)
    (hflying : o'.flying = f ::ₘ rest) (htarget : (o'.nodes i).self = f.send.target) :
    informed m.id o' = Finset.univ ∨ ∀ j ∈ informed m.id o', ∀ k, o.Knows j k →
      k = i ∨ k ∈ informed m.id o' ∨ ∃ g ∈ rest, g.send.target = (o.nodes k).self := by
  refine h.frontier.imp_right fun hall j hj k hjk => ?_
  rcases hall j hj k hjk with hk | ⟨g, hg, hgk⟩
  · exact Or.inr (Or.inl hk)
  · rcases Multiset.mem_cons.mp (hflying ▸ hg) with rfl | hg
    · have hself : (o.nodes k).self = (o.nodes i).self := by
        rw [← hgk, ← htarget, (h.same i).1]
      exact Or.inl (hready.apart k i hself)
    · exact Or.inr (Or.inr ⟨g, hg, hgk⟩)

-- A node that knows of `m` drops a further copy.
theorem Flooding.duplicate (h : Flooding H d m o start events o') (hready : Ready d m.id o)
    (hflying : o'.flying = f ::ₘ rest) (htarget : (o'.nodes i).self = f.send.target)
    (hhandle : (o'.nodes i).handle H draw f.send.message = handled)
    (hknown : i ∈ informed m.id o') :
    Flooding H d m o start (events ++ [.handled i f (o'.nodes i) handled])
      (act { o' with flying := rest } i handled.engine (handled.sends.map (f.next i))) := by
  have hcopy := h.copies f (hflying ▸ Multiset.mem_cons_self f rest)
  rcases Engine.handle_cases H draw f.send.message (o'.nodes i) with
    ⟨_, outcome, he, hdropped⟩ | ⟨_, _, _, hid, _⟩
  · rw [← hhandle, he]
    simp only [List.map_nil]
    rw [act_idle { o' with flying := rest } i]
    refine { h with copies := ?_, frontier := ?_, counts := ?_ }
    · exact fun g hg => h.copies g (hflying ▸ Multiset.mem_cons_of_mem hg)
    · refine (h.frontier_rest hready hflying htarget).imp_right fun hall j hj k hjk => ?_
      rcases hall j hj k hjk with rfl | hk | hg
      · exact Or.inl hknown
      · exact Or.inl hk
      · exact Or.inr hg
    · intro j
      have hquiet : Event.processes j m.id (.handled i f (o'.nodes i) ⟨outcome, [], o'.nodes i⟩) =
          false := by
        simp [Event.processes, Outcome.isProcessed_eq_false hdropped]
      rw [List.countP_append, List.countP_singleton, hquiet]
      exact h.counts j
  · rw [hcopy.id] at hid
    exact absurd (mem_informed.mp hknown) hid

theorem Flooding.takesIn (h : Flooding H d m o start events o') (hready : Ready d m.id o)
    (hkind : m.kind? = some (.data datatype)) (hcopy : EnRoute H d m o (informed m.id o') f)
    (hhandle : (o'.nodes i).handle H draw f.send.message = handled) (hnew : i ∉ informed m.id o') :
    Engine.TakesIn H draw datatype f.send.message (o'.nodes i) handled := by
  have hvalid := hcopy.valid
  rw [← hready.alike i, ← (h.same i).2] at hvalid
  have hdata : f.send.message.kind? = some (.data datatype) := by
    rw [Message.kind?, hcopy.kind]
    exact hkind
  have hfresh : f.send.message.id ∉ (o'.nodes i).cache.ids := by
    rw [hcopy.id]
    exact fun hmem => hnew (mem_informed.mpr hmem)
  exact hhandle ▸ Engine.takesIn_of_new draw hvalid hdata hfresh

-- A node that did not know of `m` passes it on to all its peers, unless its hops
-- are used up; then every other node has been reached.
theorem Flooding.first (h : Flooding H d m o start events o') (hready : Ready d m.id o)
    (hstamp : ∀ m, (Stamp.stamp? H d m).isSome = true) (hkind : m.kind? = some (.data datatype))
    (hwide : (Fintype.card ι : Int) ≤ m.ttl.toInt + 1) (hflying : o'.flying = f ::ₘ rest)
    (htarget : (o'.nodes i).self = f.send.target)
    (hhandle : (o'.nodes i).handle H draw f.send.message = handled) (hnew : i ∉ informed m.id o') :
    Flooding H d m o start (events ++ [.handled i f (o'.nodes i) handled])
      (act { o' with flying := rest } i handled.engine (handled.sends.map (f.next i))) := by
  have hcopy := h.copies f (hflying ▸ Multiset.mem_cons_self f rest)
  have htaken := h.takesIn hready hkind hcopy hhandle hnew
  have hself : handled.engine.self = (o'.nodes i).self :=
    hhandle ▸ (Engine.handle_frame H draw f.send.message (o'.nodes i)).2
  have hsettings : handled.engine.settings = (o.nodes i).settings :=
    htaken.settings.trans (h.same i).2
  have hdifficulty : handled.engine.settings.difficulty = d := hsettings ▸ hready.alike i
  have hpeers : handled.engine.peers = (o.nodes i).peers := htaken.peers.trans (h.peers i)
  have hcapacity : handled.engine.cache.capacity = (o'.nodes i).cache.capacity := by
    rw [htaken.cache, Cache.insert_capacity]
  have hlearnt : m.id ∈ handled.engine.cache.ids := by
    rw [htaken.cache, hcopy.id]
    exact Cache.mem_insert (h.room i) m.id
  let o'' := act { o' with flying := rest } i handled.engine (handled.sends.map (f.next i))
  have hinformed : informed m.id o'' = insert i (informed m.id o') := informed_act _ i _ hlearnt
  refine ⟨?_, ?_, ?_, ?_, ?_, ?_, ?_, ?_⟩
  · exact h.same.trans (sameNodes_act (o := { o' with flying := rest }) _ hself htaken.settings)
  · exact fun j =>
      (act_congr Engine.peers (o := { o' with flying := rest }) _ htaken.peers j).trans (h.peers j)
  · intro j
    rw [act_congr (fun e => e.cache.capacity) (o := { o' with flying := rest }) _ hcapacity]
    exact h.room j
  · rw [hinformed]
    exact Finset.mem_insert_of_mem h.start_mem
  · rw [hinformed]
    intro j hj
    rcases Finset.mem_insert.mp hj with rfl | hj
    · have hedge : o.Knows f.sentBy j := by
        rw [Knows, ← (h.same j).1, htarget]
        exact hcopy.target
      exact (h.reached _ hcopy.sender).tail hedge
    · exact h.reached j hj
  · rw [hinformed]
    intro g hg
    rcases Multiset.mem_add.mp hg with hg | hg
    · exact (h.copies g (hflying ▸ Multiset.mem_cons_of_mem hg)).mono (Finset.subset_insert _ _)
    · obtain ⟨send, hsend, rfl⟩ := List.mem_map.mp (Multiset.mem_coe.mp hg)
      exact hcopy.relay hnew hdifficulty hpeers (Engine.mem_relays (htaken.sends ▸ hsend)).2
  · rw [hinformed]
    by_cases hlive : 1 ≤ (Engine.spend f.send.message).ttl
    · have hflood : Engine.isFlooded (.data datatype) = true := rfl
      have hfanout : handled.engine.peers.members.length ≤ handled.engine.settings.fanout := by
        rw [hpeers, hsettings]
        exact hready.fanout i
      have hall := Engine.exists_relay_to_all draw hflood hlive hfanout (hdifficulty ▸ hstamp)
      rw [← htaken.sends, hpeers] at hall
      refine Or.inr fun j hj k hjk => ?_
      rcases Finset.mem_insert.mp hj with rfl | hj
      · obtain ⟨send, hsend, hk⟩ := hall _ hjk
        exact Or.inr ⟨f.next j send, Multiset.mem_add.mpr (Or.inr (List.mem_map_of_mem hsend)), hk⟩
      · rcases h.frontier_rest hready hflying htarget with huniv | hrest
        · exact absurd (huniv ▸ Finset.mem_univ i) hnew
        · rcases hrest j hj k hjk with rfl | hk | ⟨g, hg, hgk⟩
          · exact Or.inl (Finset.mem_insert_self _ _)
          · exact Or.inl (Finset.mem_insert_of_mem hk)
          · exact Or.inr ⟨g, Multiset.mem_add.mpr (Or.inl hg), hgk⟩
    · exact Or.inl (hcopy.insert_eq_univ hnew hwide hlive)
  · intro j
    have hevent : Event.processes j m.id (.handled i f (o'.nodes i) handled) = decide (i = j) := by
      simp [Event.processes, hcopy.id, htaken.outcome, Outcome.isProcessed]
    rw [hinformed, List.countP_append, List.countP_singleton, h.counts j, hevent]
    by_cases hj : i = j
    · subst hj
      have hstart : i ≠ start := fun he => hnew (he ▸ h.start_mem)
      simp [hnew, hstart]
    · simp [hj, Ne.symm hj]

theorem flooding_start (hready : Ready d m.id o) (hstamp : ∀ m, (Stamp.stamp? H d m).isSome = true)
    (hlive : 1 ≤ m.ttl) (hmade : (o.nodes start).originate H draw m = (result, e)) :
    Flooding H d m o start [] (o.spread start m result e) := by
  have hresult : result = ((o.nodes start).originate H draw m).1 := by rw [hmade]
  have he : e = ((o.nodes start).remember m.id).2 := (congrArg Prod.snd hmade).symm
  have hspread : result = e.gossip H draw m := by
    rw [he]
    exact hresult
  obtain ⟨sends, hgossip, hall⟩ := Engine.exists_gossip_to_all (H := H) (e := e) draw hlive
    (he ▸ hready.fanout start) (he ▸ (hready.alike start).symm ▸ hstamp)
  have hsends : result.toOption.getD [] = sends := by
    rw [hspread, hgossip]
    rfl
  have hroom (i : ι) : 1 ≤ (o.nodes i).cache.capacity := by
    rw [hready.room i]
    exact Nat.le_max_right _ _
  have hcapacity : e.cache.capacity = (o.nodes start).cache.capacity := by
    rw [he]
    exact Cache.insert_capacity _ _
  have hlearnt : m.id ∈ e.cache.ids := he ▸ Cache.mem_insert (hroom start) m.id
  have hnone : informed m.id o = ∅ :=
    Finset.eq_empty_of_forall_notMem fun i hi => hready.fresh i (mem_informed.mp hi)
  have hinformed : informed m.id (o.spread start m result e) = {start} := by
    have hact := informed_act o start (o.launched start result) hlearnt
    rw [hnone] at hact
    exact hact
  have hflying : (o.spread start m result e).flying =
      (↑(o.launched start result) : Multiset (Flight ι)) := by
    rw [spread, act_flying, hready.calm, Multiset.zero_add]
  refine ⟨?_, ?_, ?_, ?_, ?_, ?_, ?_, ?_⟩
  · exact sameNodes_act (o.launched start result) (he ▸ rfl) (he ▸ rfl)
  · exact act_congr Engine.peers (o.launched start result) (he ▸ rfl)
  · intro i
    rw [spread, act_congr (fun e => e.cache.capacity) (o.launched start result) hcapacity]
    exact hroom i
  · rw [hinformed]
    exact Finset.mem_singleton_self start
  · rw [hinformed]
    intro i hi
    rw [Finset.mem_singleton.mp hi]
  · rw [hinformed, hflying]
    intro f hf
    obtain ⟨send, hsend, rfl⟩ := List.mem_map.mp (Multiset.mem_coe.mp hf)
    rw [hresult] at hsend
    refine EnRoute.of_isCopy (Engine.isCopy_of_mem_originate hsend) rfl rfl (hready.alike start) rfl
      (Finset.mem_singleton_self start) ?_
    rw [Finset.card_singleton]
    rfl
  · rw [hinformed, hflying]
    refine Or.inr fun i hi j hij => ?_
    rw [Finset.mem_singleton.mp hi] at hij
    obtain ⟨send, hsend, hj⟩ := hall _ (by rw [he]; exact hij)
    rw [← hsends] at hsend
    exact Or.inr ⟨_, Multiset.mem_coe.mpr (List.mem_map_of_mem hsend), hj⟩
  · intro i
    rw [hinformed, List.countP_nil]
    simp

theorem flooding_run (hready : Ready d m.id o) (hstamp : ∀ m, (Stamp.stamp? H d m).isSome = true)
    (hkind : m.kind? = some (.data datatype)) (hlive : 1 ≤ m.ttl)
    (hwide : (Fintype.card ι : Int) ≤ m.ttl.toInt + 1)
    (hmade : (o.nodes start).originate H draw m = (result, e))
    (run : Run (Delivery H) (o.spread start m result e) events o') :
    Flooding H d m o start events o' := by
  induction run with
  | refl => exact flooding_start hready hstamp hlive hmade
  | @step _ o' _ _ _ hd ih =>
      cases hd with
      | mk f rest i draw h hflying htarget hhandle =>
          by_cases hknown : i ∈ informed m.id o'
          · exact ih.duplicate hready hflying htarget hhandle hknown
          · exact ih.first hready hstamp hkind hwide hflying htarget hhandle hknown

-- A flood reaches whom it can, whatever order its copies arrive in. As long as
-- one is in flight it can be delivered; when none is, the nodes that can be
-- reached from the first have all taken the message in, once each.
theorem flood_reaches (hkind : m.kind? = some (.data datatype)) (hready : Ready d m.id o)
    (hstamp : ∀ m, (Stamp.stamp? H d m).isSome = true) (hlive : 1 ≤ m.ttl)
    (hwide : (Fintype.card ι : Int) - 1 ≤ m.ttl.toInt) (draw : Draw)
    (hmade : (o.nodes start).originate H draw m = (result, e))
    (run : Run (Delivery H) (o.spread start m result e) events o') :
    (o'.flying ≠ 0 → ∃ event o'', Delivery H o' event o'') ∧
    (o'.flying = 0 → ∀ i,
      (i ≠ start ∧ Relation.ReflTransGen o.Knows start i → events.countP (Event.processes i m.id) = 1) ∧
      (¬ (i ≠ start ∧ Relation.ReflTransGen o.Knows start i) →
        events.countP (Event.processes i m.id) = 0)) := by
  have h := flooding_run hready hstamp hkind hlive (by omega) hmade run
  constructor
  · intro hsome
    obtain ⟨f, hf⟩ := Multiset.exists_mem_of_ne_zero hsome
    obtain ⟨rest, hflying⟩ := Multiset.exists_cons_of_mem hf
    obtain ⟨i, hi⟩ := hready.closed _ _ (h.copies f hf).target
    exact ⟨_, _, .mk f rest i draw _ hflying ((h.same i).1.trans hi) rfl⟩
  · intro hdone i
    have hiff : i ∈ informed m.id o' ↔ Relation.ReflTransGen o.Knows start i := by
      refine ⟨h.reached i, fun hpath => ?_⟩
      rcases h.frontier with huniv | hclosed
      · rw [huniv]
        exact Finset.mem_univ i
      · induction hpath with
        | refl => exact h.start_mem
        | tail _ hedge ih =>
            rcases hclosed _ ih _ hedge with hk | ⟨f, hf, _⟩
            · exact hk
            · rw [hdone] at hf
              exact absurd hf (Multiset.notMem_zero f)
    rw [h.counts i, ← hiff]
    exact ⟨fun hpath => if_pos hpath, fun hpath => if_neg hpath⟩

theorem ready_pair : Ready .none 1 (quiet pair) where
  apart i j h := by
    cases i <;> cases j <;> first | rfl | exact absurd h (by decide)
  alike _ := rfl
  closed i address h := by
    cases i
    · exact ⟨true, (List.mem_singleton.mp h).symm⟩
    · exact ⟨false, (List.mem_singleton.mp h).symm⟩
  fanout i := by cases i <;> decide
  room _ := rfl
  fresh _ := List.not_mem_nil
  calm := rfl

-- The second node takes the rumor in, and the first one drops its echo.
theorem flood_reaches_pair :
    ∃ events o, Run (Delivery (.ofFunction id)) told events o ∧ o.flying = 0 ∧
    events.countP (Event.processes true 1) = 1 ∧ events.countP (Event.processes false 1) = 0 := by
  let H : Digest := .ofFunction id
  have hknown : 1 ∈ (relayed.nodes false).cache.ids :=
    Cache.mem_insert (c := (pair false).cache) (Nat.le_max_right _ _) 1
  have hecho : (relayed.nodes false).handle H (.inOrder 0) homeward.send.message =
      ⟨.duplicate, [], relayed.nodes false⟩ := Engine.handle_of_known (.inOrder 0) rfl rfl hknown
  have run : Run (Delivery H) told _ _ :=
    (Run.refl.step (pair_delivery H)).step (.mk homeward 0 false (.inOrder 0) _ rfl rfl hecho)
  obtain ⟨_, hdone⟩ :=
    flood_reaches (m := rumor) rfl ready_pair (Stamp.isSome_stamp?_none H)
      (by decide) (by decide) (.inOrder 0) (pair_originate H) run
  have hedge : (quiet pair).Knows false true := List.mem_singleton_self "b"
  refine ⟨_, _, run, rfl, (hdone rfl true).1 ⟨by decide, .single hedge⟩,
    (hdone rfl false).2 (by simp)⟩

end Overlay

end Rumor
